/-
The texts that a pattern matches, as a language.

A pattern without conditions on its surroundings matches the same texts at
every place, whatever the groups have kept so far. `Denotes` says so, and is
proved constructor by constructor; the greedy loops need that a round which
is not empty moves on, so that the rounds that are left suffice.
-/
import Mathlib.Computability.Language
import ProxyMaps.Proofs.Lists
import ProxyMaps.Regex.Matcher

namespace ProxyMaps.Regex

open scoped Computability

/-- What the marks of two places differ in does not count: `q` is `p` moved past `u`. -/
structure Place.Passed (p : Place) (u : List Char) (q : Place) : Prop where
  pos : q.pos = p.pos + u.length
  before : q.before = u.reverse ++ p.before
  after : p.after = u ++ q.after

namespace Place.Passed

variable {p q r : Place} {u v : List Char}

theorem refl (p : Place) : p.Passed [] p := ⟨rfl, rfl, rfl⟩

theorem trans (h₁ : p.Passed u q) (h₂ : q.Passed v r) : p.Passed (u ++ v) r where
  pos := by rw [h₂.pos, h₁.pos, List.length_append, Nat.add_assoc]
  before := by rw [h₂.before, h₁.before, List.reverse_append, List.append_assoc]
  after := by rw [h₁.after, h₂.after, List.append_assoc]

/-- Marks may be set before the move and after it. -/
theorem mark (h : p.Passed u q) (m n : List Mark) :
    Place.Passed { p with marks := m } u { q with marks := n } :=
  ⟨h.pos, h.before, h.after⟩

theorem drop (h : p.Passed u q) : q.after = p.after.drop u.length := by
  rw [h.after, List.drop_left]

end Place.Passed

namespace Node

/-! ## The ways to match, listed -/

section

variable (a b : Node) (p : Place)

theorem toList_run_empty : (run empty p).toList = [p] := rfl

theorem toList_run_one (t : CharTest) : (run (one t) p).toList = (p.step? t).toList :=
  Choices.toList_ofOption _

theorem toList_run_anchor (k : Anchor) :
    (run (anchor k) p).toList = if p.isAt k then [p] else [] := by
  change Choices.toList (if p.isAt k then .one p else .done) = _
  split <;> rfl

theorem toList_run_seq :
    (run (seq a b) p).toList = (run a p).toList.flatMap fun q => (run b q).toList :=
  Choices.toList_flatMap _ _

theorem toList_run_alt : (run (alt a b) p).toList = (run a p).toList ++ (run b p).toList :=
  Choices.toList_append _ _

theorem toList_run_group (n : Nat) :
    (run (group n a) p).toList = (run a (p.openMark n)).toList.map fun q => q.closeMark n :=
  (Choices.toList_flatMap _ _).trans List.map_eq_flatMap.symm

theorem toList_run_greedy (min : Nat) (max : Option Nat) :
    (run (loop min max .greedy a) p).toList =
      (times a.run min p).toList.flatMap fun q =>
        (rounds true a.run (roundLimit min max q) none q).toList :=
  Choices.toList_flatMap _ _

variable (body : Place → Choices Place)

theorem toList_times_zero : (times body 0 p).toList = [p] := rfl

theorem toList_times_succ (n : Nat) :
    (times body (n + 1) p).toList = (body p).toList.flatMap fun q => (times body n q).toList :=
  Choices.toList_flatMap _ _

theorem toList_rounds_zero (last : Option Nat) : (rounds true body 0 last p).toList = [p] := rfl

theorem toList_rounds_succ (fuel : Nat) (last : Option Nat) :
    (rounds true body (fuel + 1) last p).toList =
      if last = some p.pos then [p]
      else ((body p).toList.flatMap fun q => (rounds true body fuel (some p.pos) q).toList) ++
        [p] := by
  change Choices.toList (if last = some p.pos then .one p
    else ((body p).flatMap (rounds true body fuel (some p.pos))).append fun _ => .one p) = _
  split
  · rfl
  · rw [Choices.toList_append, Choices.toList_flatMap, Choices.toList_one]

end

/-! ## Patterns that denote a language -/

/-- A pattern matches exactly the texts of a language, at every place, whatever is marked there. -/
structure Denotes (n : Node) (L : Language Char) : Prop where
  sound : ∀ p, ∀ q ∈ (n.run p).toList, ∃ u ∈ L, p.Passed u q
  complete : ∀ p, ∀ u ∈ L, u <+: p.after → ∃ q ∈ (n.run p).toList, p.Passed u q

/-- The texts of one character that passes a test. -/
def charsOf (t : CharTest) : Language Char := {u | ∃ c, t.passes c = true ∧ u = [c]}

theorem denotes_empty : Denotes empty 1 where
  sound p q hq := by
    rw [toList_run_empty, List.mem_singleton] at hq
    exact ⟨[], rfl, hq ▸ .refl p⟩
  complete p u hu _ := by
    obtain rfl : u = [] := hu
    exact ⟨p, List.mem_singleton_self p, .refl p⟩

theorem denotes_one (t : CharTest) : Denotes (one t) (charsOf t) where
  sound p q hq := by
    simp only [toList_run_one, Option.mem_toList, Place.step?] at hq
    split at hq
    next c rest h =>
      split at hq
      next ht =>
        simp only [Option.some.injEq] at hq
        subst hq
        exact ⟨[c], ⟨c, ht, rfl⟩, rfl, rfl, h⟩
      · simp at hq
    · simp at hq
  complete p u hu hp := by
    obtain ⟨c, ht, rfl⟩ := hu
    obtain ⟨rest, h⟩ := hp
    refine ⟨⟨p.pos + 1, c :: p.before, rest, p.marks⟩, ?_, rfl, rfl, h.symm⟩
    simp [toList_run_one, Place.step?, ← h, ht]

theorem Denotes.seq {a b : Node} {L M : Language Char} (ha : Denotes a L) (hb : Denotes b M) :
    Denotes (seq a b) (L * M) where
  sound p q hq := by
    rw [toList_run_seq, List.mem_flatMap] at hq
    obtain ⟨r, hr, hq⟩ := hq
    obtain ⟨u, hu, hpu⟩ := ha.sound p r hr
    obtain ⟨v, hv, hrv⟩ := hb.sound r q hq
    exact ⟨u ++ v, Language.append_mem_mul hu hv, hpu.trans hrv⟩
  complete p w hw hp := by
    obtain ⟨u, hu, v, hv, rfl⟩ := Language.mem_mul.1 hw
    obtain ⟨r, hr, hpr⟩ := ha.complete p u hu ((List.prefix_append u v).trans hp)
    have hv' : v <+: r.after := by
      rw [hpr.after] at hp
      exact (List.prefix_append_right_inj u).1 hp
    obtain ⟨q, hq, hrq⟩ := hb.complete r v hv hv'
    refine ⟨q, ?_, hpr.trans hrq⟩
    rw [toList_run_seq, List.mem_flatMap]
    exact ⟨r, hr, hq⟩

theorem Denotes.alt {a b : Node} {L M : Language Char} (ha : Denotes a L) (hb : Denotes b M) :
    Denotes (alt a b) (L + M) where
  sound p q hq := by
    rw [toList_run_alt, List.mem_append] at hq
    rcases hq with hq | hq
    · obtain ⟨u, hu, h⟩ := ha.sound p q hq
      exact ⟨u, .inl hu, h⟩
    · obtain ⟨u, hu, h⟩ := hb.sound p q hq
      exact ⟨u, .inr hu, h⟩
  complete p u hu hp := by
    rw [toList_run_alt]
    rcases hu with hu | hu
    · obtain ⟨q, hq, h⟩ := ha.complete p u hu hp
      exact ⟨q, List.mem_append_left _ hq, h⟩
    · obtain ⟨q, hq, h⟩ := hb.complete p u hu hp
      exact ⟨q, List.mem_append_right _ hq, h⟩

/-- Alternatives of at least one pattern. -/
theorem Denotes.altOf {α : Type} {f : α → Node} {L : α → Language Char} {as : List α}
    (hne : as ≠ []) (h : ∀ a ∈ as, Denotes (f a) (L a)) :
    Denotes (altOf (as.map f)) (as.map L).sum := by
  induction as with
  | nil => exact absurd rfl hne
  | cons a as ih =>
    cases as with
    | nil =>
      rw [List.map_singleton, List.map_singleton, List.sum_singleton]
      exact h a List.mem_cons_self
    | cons b bs =>
      rw [List.map_cons (f := L), List.sum_cons]
      exact (h a List.mem_cons_self).alt (ih (by simp) fun c hc => h c (List.mem_cons_of_mem _ hc))

theorem mem_sum_map {α : Type} {L : α → Language Char} {as : List α} {u : List Char} :
    u ∈ (as.map L).sum ↔ ∃ a ∈ as, u ∈ L a := by
  induction as with
  | nil => simp [Language.notMem_zero]
  | cons a as ih => rw [List.map_cons, List.sum_cons, Language.mem_add, ih, List.exists_mem_cons_iff]

theorem Denotes.group {a : Node} {L : Language Char} (n : Nat) (ha : Denotes a L) :
    Denotes (group n a) L where
  sound p q hq := by
    rw [toList_run_group, List.mem_map] at hq
    obtain ⟨r, hr, rfl⟩ := hq
    obtain ⟨u, hu, h⟩ := ha.sound _ r hr
    exact ⟨u, hu, h.mark _ _⟩
  complete p u hu hp := by
    obtain ⟨q, hq, h⟩ := ha.complete (p.openMark n) u hu hp
    refine ⟨q.closeMark n, ?_, h.mark _ _⟩
    rw [toList_run_group]
    exact List.mem_map_of_mem hq

/-! ## Repetitions -/

section

variable {a : Node} {L : Language Char}

theorem Denotes.mem_times (ha : Denotes a L) (n : Nat) (p q : Place)
    (hq : q ∈ (times a.run n p).toList) : ∃ u ∈ L ^ n, p.Passed u q := by
  induction n generalizing p with
  | zero =>
    rw [toList_times_zero, List.mem_singleton] at hq
    exact ⟨[], rfl, hq ▸ .refl p⟩
  | succ n ih =>
    rw [toList_times_succ, List.mem_flatMap] at hq
    obtain ⟨r, hr, hq⟩ := hq
    obtain ⟨u, hu, hpr⟩ := ha.sound p r hr
    obtain ⟨v, hv, hrq⟩ := ih r hq
    exact ⟨u ++ v, pow_succ' L n ▸ Language.append_mem_mul hu hv, hpr.trans hrq⟩

theorem Denotes.times_mem (ha : Denotes a L) (n : Nat) (p : Place) (w : List Char)
    (hw : w ∈ L ^ n) (hp : w <+: p.after) : ∃ q ∈ (times a.run n p).toList, p.Passed w q := by
  induction n generalizing p w with
  | zero =>
    obtain rfl : w = [] := hw
    exact ⟨p, List.mem_singleton_self p, .refl p⟩
  | succ n ih =>
    rw [pow_succ'] at hw
    obtain ⟨u, hu, v, hv, rfl⟩ := Language.mem_mul.1 hw
    obtain ⟨r, hr, hpr⟩ := ha.complete p u hu ((List.prefix_append u v).trans hp)
    rw [hpr.after] at hp
    obtain ⟨q, hq, hrq⟩ := ih r v hv ((List.prefix_append_right_inj u).1 hp)
    refine ⟨q, ?_, hpr.trans hrq⟩
    rw [toList_times_succ, List.mem_flatMap]
    exact ⟨r, hr, hq⟩

theorem Denotes.mem_rounds (ha : Denotes a L) (fuel : Nat) (last : Option Nat) (p q : Place)
    (hq : q ∈ (rounds true a.run fuel last p).toList) :
    ∃ ws : List (List Char), ws.length ≤ fuel ∧ (∀ w ∈ ws, w ∈ L) ∧ p.Passed ws.flatten q := by
  induction fuel generalizing last p with
  | zero =>
    rw [toList_rounds_zero, List.mem_singleton] at hq
    exact ⟨[], by simp, by simp, hq ▸ .refl p⟩
  | succ fuel ih =>
    have stop : ∃ ws : List (List Char), ws.length ≤ fuel + 1 ∧ (∀ w ∈ ws, w ∈ L) ∧
        p.Passed ws.flatten p := ⟨[], by simp, by simp, .refl p⟩
    rw [toList_rounds_succ] at hq
    split at hq
    · exact List.mem_singleton.1 hq ▸ stop
    · simp only [List.mem_append, List.mem_flatMap, List.mem_singleton] at hq
      rcases hq with ⟨r, hr, hq⟩ | rfl
      · obtain ⟨w, hw, hpr⟩ := ha.sound p r hr
        obtain ⟨ws, hlen, hws, hrq⟩ := ih _ r hq
        refine ⟨w :: ws, by simpa using hlen, ?_, ?_⟩
        · simpa using ⟨hw, hws⟩
        · simpa using hpr.trans hrq
      · exact stop

/-- Rounds that are not empty, no more of them than the fuel, can all be made. -/
theorem Denotes.rounds_mem (ha : Denotes a L) (ws : List (List Char))
    (hws : ∀ w ∈ ws, w ∈ L ∧ w ≠ []) (fuel : Nat) (last : Option Nat) (p : Place)
    (hlen : ws.length ≤ fuel) (hlast : last ≠ some p.pos) (hp : ws.flatten <+: p.after) :
    ∃ q ∈ (rounds true a.run fuel last p).toList, p.Passed ws.flatten q := by
  induction ws generalizing fuel last p with
  | nil =>
    refine ⟨p, ?_, .refl p⟩
    cases fuel with
    | zero => exact List.mem_singleton_self p
    | succ fuel => simp [toList_rounds_succ, hlast]
  | cons w ws ih =>
    obtain ⟨fuel, rfl⟩ : ∃ f, fuel = f + 1 := ⟨fuel - 1, by simp at hlen; omega⟩
    simp only [List.flatten_cons] at hp
    obtain ⟨hw, hne⟩ := hws w (by simp)
    obtain ⟨r, hr, hpr⟩ := ha.complete p w hw ((List.prefix_append _ _).trans hp)
    rw [hpr.after] at hp
    have hmoved : some p.pos ≠ some r.pos := by
      have := List.length_pos_iff.2 hne
      simp only [ne_eq, Option.some.injEq, hpr.pos]
      omega
    obtain ⟨q, hq, hrq⟩ := ih (fun v hv => hws v (by simp [hv])) fuel (some p.pos) r
      (by simpa using hlen) hmoved ((List.prefix_append_right_inj w).1 hp)
    refine ⟨q, ?_, hpr.trans hrq⟩
    rw [toList_rounds_succ, if_neg hlast]
    exact List.mem_append_left _ (List.mem_flatMap.2 ⟨r, hr, hq⟩)

/-- A greedy repetition without an upper limit. -/
theorem Denotes.atLeast (ha : Denotes a L) (min : Nat) :
    Denotes (loop min none .greedy a) (L ^ min * L∗) where
  sound p q hq := by
    rw [toList_run_greedy, List.mem_flatMap] at hq
    obtain ⟨r, hr, hq⟩ := hq
    obtain ⟨u, hu, hpr⟩ := ha.mem_times min p r hr
    obtain ⟨ws, -, hws, hrq⟩ := ha.mem_rounds _ _ r q hq
    exact ⟨u ++ ws.flatten, Language.append_mem_mul hu (Language.join_mem_kstar hws), hpr.trans hrq⟩
  complete p w hw hp := by
    obtain ⟨u, hu, v, hv, rfl⟩ := Language.mem_mul.1 hw
    obtain ⟨r, hr, hpr⟩ := ha.times_mem min p u hu ((List.prefix_append u v).trans hp)
    rw [hpr.after] at hp
    rw [Language.kstar_def_nonempty] at hv
    obtain ⟨ws, rfl, hws⟩ := hv
    have hp' := (List.prefix_append_right_inj u).1 hp
    have hlen : ws.length ≤ roundLimit min none r := by
      have h₁ := List.length_le_length_flatten fun w hw => (hws w hw).2
      have h₂ := hp'.length_le
      simp only [roundLimit]
      omega
    obtain ⟨q, hq, hrq⟩ := ha.rounds_mem ws hws _ none r hlen (by simp) hp'
    refine ⟨q, ?_, hpr.trans hrq⟩
    rw [toList_run_greedy, List.mem_flatMap]
    exact ⟨r, hr, hq⟩

/-- A greedy repetition that may be left out and is made once at most. -/
theorem Denotes.optional (ha : Denotes a L) : Denotes (loop 0 (some 1) .greedy a) (1 + L) where
  sound p q hq := by
    rw [toList_run_greedy, toList_times_zero, List.flatMap_singleton] at hq
    obtain ⟨ws, hlen, hws, hpq⟩ := ha.mem_rounds _ _ p q hq
    have hone : ws.length ≤ 1 := Nat.le_trans hlen (Nat.min_le_left _ _)
    match ws, hone with
    | [], _ => exact ⟨[], .inl rfl, hpq⟩
    | [w], _ => exact ⟨w, .inr (hws w (by simp)), by simpa using hpq⟩
  complete p u hu hp := by
    rw [toList_run_greedy, toList_times_zero, List.flatMap_singleton]
    by_cases hne : u = []
    · subst hne
      exact ha.rounds_mem [] (by simp) _ _ p (by simp) (by simp) (List.nil_prefix)
    · have hL : u ∈ L := hu.resolve_left hne
      have := ha.rounds_mem [u] (by simp [hL, hne]) (roundLimit 0 (some 1) p) none p
        (by simp [roundLimit]) (by simp) (by simpa using hp)
      simpa using this

end

/-- Texts of characters that all pass a test. -/
theorem mem_kstar_charsOf {t : CharTest} {u : List Char} :
    u ∈ (charsOf t)∗ ↔ ∀ c ∈ u, t.passes c = true := by
  constructor
  · intro h c hc
    obtain ⟨ws, rfl, hws⟩ := Language.mem_kstar.1 h
    obtain ⟨w, hw, hc⟩ := List.mem_flatten.1 hc
    obtain ⟨d, hd, rfl⟩ := hws w hw
    rwa [List.mem_singleton.1 hc]
  · intro h
    refine Language.mem_kstar.2 ⟨u.map ([·]), ?_, fun w hw => ?_⟩
    · rw [← List.flatMap_def, List.flatMap_singleton']
    · obtain ⟨c, hc, rfl⟩ := List.mem_map.1 hw
      exact ⟨c, h c hc, rfl⟩

/-! ## One pattern after another -/

theorem toList_run_seqOf_nil (p : Place) : (run (seqOf []) p).toList = [p] := rfl

theorem toList_run_seqOf_cons (n : Node) (ns : List Node) (p : Place) :
    (run (seqOf (n :: ns)) p).toList =
      (run n p).toList.flatMap fun q => (run (seqOf ns) q).toList := by
  cases ns with
  | nil => simp [seqOf, toList_run_empty]
  | cons m ms => exact toList_run_seq _ _ p

theorem toList_run_seqOf_append (ns ms : List Node) (p : Place) :
    (run (seqOf (ns ++ ms)) p).toList =
      (run (seqOf ns) p).toList.flatMap fun q => (run (seqOf ms) q).toList := by
  induction ns generalizing p with
  | nil => simp [toList_run_seqOf_nil]
  | cons n ns ih =>
    simp only [List.cons_append, toList_run_seqOf_cons, List.flatMap_assoc, ih]

/-- What a pattern denotes depends on its ways to match only. -/
theorem Denotes.congr {a b : Node} {L : Language Char} (ha : Denotes a L)
    (h : ∀ p, (run b p).toList = (run a p).toList) : Denotes b L where
  sound p q hq := ha.sound p q (h p ▸ hq)
  complete p u hu hp := by
    rw [h p]
    exact ha.complete p u hu hp

theorem Denotes.seqOf_append {s t : List Node} {L M : Language Char}
    (hs : Denotes (seqOf s) L) (ht : Denotes (seqOf t) M) : Denotes (seqOf (s ++ t)) (L * M) :=
  (hs.seq ht).congr fun p => by rw [toList_run_seqOf_append, toList_run_seq]

theorem Denotes.seqOf_cons {n : Node} {ns : List Node} {L M : Language Char}
    (hn : Denotes n L) (hm : Denotes (seqOf ns) M) : Denotes (seqOf (n :: ns)) (L * M) :=
  Denotes.seqOf_append (s := [n]) hn hm

theorem toNat_beq_iff {c d : Char} : (c.toNat == d.toNat) = true ↔ c = d := by
  rw [beq_iff_eq]
  exact ⟨fun h => Char.ext (UInt32.toNat_inj.1 h), fun h => h ▸ rfl⟩

theorem passes_code_iff {c d : Char} :
    (CharTest.code false .exact d.toNat).passes c = true ↔ c = d := by
  rw [CharTest.passes_code_exact, toNat_beq_iff]

theorem passes_code_not_iff {c d : Char} :
    (CharTest.code true .exact d.toNat).passes c = true ↔ c ≠ d := by
  rw [ne_eq, ← toNat_beq_iff]
  simp [CharTest.passes, CaseMode.same, CaseMode.isCased]

/-- The characters of a text, each as a pattern for itself. -/
def literal (s : List Char) : List Node := s.map fun c => one (.code false .exact c.toNat)

theorem denotes_literal (s : List Char) : Denotes (seqOf (literal s)) {s} := by
  induction s with
  | nil => exact denotes_empty
  | cons c s ih =>
    have h := (denotes_one (.code false .exact c.toNat)).seqOf_cons ih
    have hL : charsOf (.code false .exact c.toNat) * ({s} : Language Char) = {c :: s} := by
      ext w
      constructor
      · intro hw
        obtain ⟨u, ⟨d, hd, rfl⟩, v, rfl, rfl⟩ := Language.mem_mul.1 hw
        exact passes_code_iff.1 hd ▸ rfl
      · rintro rfl
        exact Language.append_mem_mul (a := [c]) ⟨c, by simp, rfl⟩ rfl
    exact hL ▸ h

/-! ## Searching for a pattern that starts and ends with the text -/

theorem scan_isSome_iff (n : Node) (pos : Nat) (before s : List Char) :
    (scan n pos before s).isSome = true ↔ ∃ pre post, s = pre ++ post ∧
      (run n ⟨pos + pre.length, pre.reverse ++ before, post, []⟩).toList ≠ [] := by
  induction s generalizing pos before with
  | nil =>
    constructor
    · intro h
      exact ⟨[], [], rfl, fun h' => by simp_all [scan]⟩
    · intro h
      obtain ⟨pre, post, h, h'⟩ := h
      obtain ⟨rfl, rfl⟩ := List.append_eq_nil_iff.1 h.symm
      simpa [scan, List.head?_eq_none_iff, ← Option.isSome_iff_ne_none] using h'
  | cons c rest ih =>
    simp only [scan]
    split
    next q hq =>
      simp only [Option.isSome_some, true_iff]
      refine ⟨[], c :: rest, rfl, fun h' => ?_⟩
      simp only [List.length_nil, Nat.add_zero, List.reverse_nil, List.nil_append] at h'
      simp [h'] at hq
    next hq =>
      rw [ih]
      have hnil : (run n ⟨pos, before, c :: rest, []⟩).toList = [] := by simpa using hq
      constructor
      · intro h
        obtain ⟨pre, post, rfl, h⟩ := h
        refine ⟨c :: pre, post, rfl, ?_⟩
        simpa [Nat.add_assoc, Nat.add_comm 1] using h
      · intro h
        obtain ⟨pre, post, h, h'⟩ := h
        cases pre with
        | nil =>
          obtain rfl : c :: rest = post := h
          exact absurd hnil (by simpa using h')
        | cons d pre =>
          simp only [List.cons_append, List.cons.injEq] at h
          obtain ⟨rfl, rfl⟩ := h
          refine ⟨pre, post, rfl, ?_⟩
          simpa [Nat.add_assoc, Nat.add_comm 1] using h'

/-- Patterns one after the other between two conditions on places. -/
def between (a b : Anchor) (ns : List Node) : Node := seqOf (anchor a :: ns ++ [anchor b])

theorem mem_run_anchor {a : Anchor} {p q : Place} :
    q ∈ (run (anchor a) p).toList ↔ p.isAt a = true ∧ q = p := by
  rw [toList_run_anchor]
  split <;> simp_all

theorem mem_run_between {a b : Anchor} {ns : List Node} {p q : Place} :
    q ∈ (run (between a b ns) p).toList ↔
      p.isAt a = true ∧ q ∈ (run (seqOf ns) p).toList ∧ q.isAt b = true := by
  simp only [between, List.cons_append, toList_run_seqOf_cons, toList_run_seqOf_append,
    toList_run_seqOf_nil, List.mem_flatMap, List.mem_singleton, mem_run_anchor]
  constructor
  · intro h
    obtain ⟨_, ⟨ha, rfl⟩, _, hq, _, ⟨hb, rfl⟩, rfl⟩ := h
    exact ⟨ha, hq, hb⟩
  · intro h
    obtain ⟨ha, hq, hb⟩ := h
    exact ⟨p, ⟨ha, rfl⟩, q, hq, q, ⟨hb, rfl⟩, rfl⟩

/-- A pattern that is held at the start of the text is only tried there. -/
theorem search_between_isSome_iff {b : Anchor} {ns : List Node} {s : List Char} :
    ((between .textStart b ns).search s).isSome = true ↔
      ∃ q ∈ (run (seqOf ns) (Place.start s)).toList, q.isAt b = true := by
  simp only [search, scan_isSome_iff]
  constructor
  · intro h
    obtain ⟨pre, post, rfl, hne⟩ := h
    obtain ⟨q, hq⟩ := List.exists_mem_of_ne_nil _ hne
    obtain ⟨hstart, hq, hb⟩ := mem_run_between.1 hq
    obtain rfl : pre = [] := by simpa [Place.isAt] using hstart
    exact ⟨q, hq, hb⟩
  · intro h
    obtain ⟨q, hq, hb⟩ := h
    exact ⟨[], s, rfl, List.ne_nil_of_mem (mem_run_between.2 ⟨rfl, hq, hb⟩)⟩

/-- The texts that are a line of a language as a whole, the line feed at the end not counted. -/
theorem search_line_iff {ns : List Node} {L : Language Char} (h : Denotes (seqOf ns) L)
    (s : List Char) :
    ((between .textStart .lastLineEnd ns).search s).isSome = true ↔
      s ∈ L ∨ ∃ u ∈ L, s = u ++ ['\n'] := by
  rw [search_between_isSome_iff]
  constructor
  · intro h
    obtain ⟨q, hq, hend⟩ := h
    obtain ⟨u, hu, hp⟩ := h.sound _ q hq
    have hs : s = u ++ q.after := hp.after
    simp only [Place.isAt, Bool.or_eq_true, List.isEmpty_iff, beq_iff_eq] at hend
    rcases hend with hend | hend
    · rw [hend, List.append_nil] at hs
      exact .inl (hs ▸ hu)
    · exact .inr ⟨u, hu, by rw [hs, hend]⟩
  · have key : ∀ u ∈ L, ∀ e, s = u ++ e → (e = [] ∨ e = ['\n']) →
        ∃ q ∈ (run (seqOf ns) (Place.start s)).toList, q.isAt .lastLineEnd = true := by
      intro u hu e hse he
      obtain ⟨q, hq, hp⟩ := h.complete (Place.start s) u hu ⟨e, hse.symm⟩
      have hafter : q.after = e := by
        rw [hp.drop, Place.start, hse, List.drop_left]
      exact ⟨q, hq, by rcases he with rfl | rfl <;> simp [Place.isAt, hafter]⟩
    intro h
    rcases h with hs | ⟨u, hu, hs⟩
    · exact key s hs [] (by simp) (.inl rfl)
    · exact key u hu _ hs (.inr rfl)

end Node

end ProxyMaps.Regex
