/-
The canonical text of an address has its parts in as few digits as they have,
without the first longest run of zeros (`writesCanonically_render`). It is one of
the texts that write the address (`writes_render`). An address is determined by its
version and its number (`eq_of_number_eq`).
-/
import Mathlib.Data.Nat.Digits.Defs
import ProxyMaps.Proofs.Address.Grammar

namespace ProxyMaps.Address

/-! ## Numbers -/

/-- The parts of an address are as many as its version has, and fit in their bits. -/
def WellFormed : Address → Prop
  | v4 os => os.length = 4 ∧ ∀ o ∈ os, o < 256
  | v6 gs => gs.length = 8 ∧ ∀ g ∈ gs, g < 65536

/-- An address as one number. -/
def number : Address → Nat
  | v4 os => Nat.ofDigits 256 os.reverse
  | v6 gs => Nat.ofDigits 65536 gs.reverse

theorem eq_of_number_eq {a b : Address} (ha : a.WellFormed) (hb : b.WellFormed)
    (hversion : a.version = b.version) (hnumber : a.number = b.number) : a = b := by
  have hparts : ∀ {base : Nat} {xs ys : List Nat}, 1 < base → xs.length = ys.length →
      (∀ x ∈ xs, x < base) → (∀ y ∈ ys, y < base) →
      Nat.ofDigits base xs.reverse = Nat.ofDigits base ys.reverse → xs = ys := by
    intro base xs ys hbase hlength hx hy h
    exact List.reverse_inj.1
      (Nat.ofDigits_inj_of_len_eq hbase (by simpa using hlength) (by simpa using hx)
        (by simpa using hy) h)
  cases a with
  | v4 os =>
    cases b with
    | v4 os' => rw [hparts (by decide) (ha.1.trans hb.1.symm) ha.2 hb.2 hnumber]
    | v6 => cases hversion
  | v6 gs =>
    cases b with
    | v4 => cases hversion
    | v6 gs' => rw [hparts (by decide) (ha.1.trans hb.1.symm) ha.2 hb.2 hnumber]

/-! ## What is written is well formed -/

section

variable {s : List Char} {n : Nat} {ns : List Nat} {dotted : Bool}

theorem hexDigit_lt (c : Char) : hexDigit c < 16 := by
  rw [hexDigit, Text.hexValue?]
  cases h : (Text.asciiDigitValue? c).filter (· < 16) with
  | none => decide
  | some d => simpa using (Option.filter_eq_some_iff.1 h).2

theorem foldl_hexDigit_lt (s : List Char) (n : Nat) :
    s.foldl (fun n c => n * 16 + hexDigit c) n < (n + 1) * 16 ^ s.length := by
  induction s generalizing n with
  | nil => simp
  | cons c s ih =>
    have hc := hexDigit_lt c
    calc s.foldl (fun n c => n * 16 + hexDigit c) (n * 16 + hexDigit c)
        < (n * 16 + hexDigit c + 1) * 16 ^ s.length := ih _
      _ ≤ (n + 1) * 16 * 16 ^ s.length := Nat.mul_le_mul_right _ (by omega)
      _ = (n + 1) * 16 ^ (s.length + 1) := by rw [Nat.pow_succ, Nat.mul_assoc, Nat.mul_comm 16]

theorem WritesGroup.lt (h : WritesGroup s n) : n < 65536 := by
  have hlt := foldl_hexDigit_lt s 0
  have hpow : 16 ^ s.length ≤ 16 ^ 4 := Nat.pow_le_pow_right (by decide) h.length_le
  rw [h.value] at hlt
  omega

theorem WritesDotted.wellFormed (h : WritesDotted s ns) : (v4 ns).WellFormed := by
  obtain ⟨ha, hb, hc, hd⟩ := h
  have hlt : ∀ {t : List Char} {m : Nat}, WritesOctet t m → m < 256 := fun ht =>
    Nat.lt_succ_of_le ht.le
  refine ⟨rfl, ?_⟩
  simp [hlt ha, hlt hb, hlt hc, hlt hd]

theorem WritesRun.lt (h : WritesRun dotted s ns) : ∀ g ∈ ns, g < 65536 := by
  induction h with
  | group h => simpa using h.lt
  | octets _ h =>
    have hlt := h.wellFormed.2
    simp only [List.forall_mem_cons] at hlt ⊢
    exact ⟨by omega, by omega, List.forall_mem_nil _⟩
  | cons h _ ih => exact List.forall_mem_cons.2 ⟨h.lt, ih⟩

theorem WritesSide.lt (h : WritesSide dotted s ns) : ∀ g ∈ ns, g < 65536 := by
  cases h with
  | none => exact List.forall_mem_nil _
  | run h => exact h.lt

theorem Writes.wellFormed {a : Address} (h : Writes s a) : a.WellFormed := by
  cases h with
  | v4 h => exact h.wellFormed
  | v6 h =>
    cases h with
    | full h hlength => exact ⟨hlength, h.lt⟩
    | gap hleft hright hpos hlength =>
      refine ⟨by simpa [Nat.add_assoc] using hlength, fun g hg => ?_⟩
      simp only [List.mem_append, List.mem_replicate] at hg
      rcases hg with (hg | ⟨-, rfl⟩) | hg
      · exact hleft.lt g hg
      · decide
      · exact hright.lt g hg

end

/-! ## Numerals -/

theorem writesOctet_toDigits {n : Nat} (h : n < 256) : WritesOctet (Nat.toDigits 10 n) n where
  isDigits := Decimal.isDigits_toDigits n
  length_le := (Nat.length_toDigits_le_iff (by decide) (by decide)).2 (by omega)
  eq_zero hhead := by
    rcases Nat.eq_zero_or_pos n with rfl | hpos
    · rfl
    · exact absurd hhead (Decimal.head?_toDigits hpos)
  value := Nat.ofDigitChars_ten_toDigits
  le := Nat.le_of_lt_succ h

theorem digitChar_hex :
    ∀ d < 16, IsHexDigit (Nat.digitChar d) ∧ hexDigit (Nat.digitChar d) = d := by
  decide

theorem toDigits_hex (n : Nat) :
    (∀ c ∈ Nat.toDigits 16 n, IsHexDigit c) ∧
      (Nat.toDigits 16 n).foldl (fun n c => n * 16 + hexDigit c) 0 = n := by
  induction n using Nat.strongRecOn with
  | ind n ih =>
    by_cases hlt : n < 16
    · obtain ⟨hdigit, hvalue⟩ := digitChar_hex n hlt
      rw [Nat.toDigits_of_lt_base hlt]
      simp [hdigit, hvalue]
    · have hle : 16 ≤ n := Nat.le_of_not_lt hlt
      obtain ⟨hfront, hnumber⟩ := ih (n / 16) (by omega)
      obtain ⟨hdigit, hvalue⟩ := digitChar_hex (n % 16) (Nat.mod_lt n (by decide))
      rw [Nat.toDigits_of_base_le (by decide) hle, List.foldl_append, hnumber]
      refine ⟨fun c hc => ?_, ?_⟩
      · rcases List.mem_append.1 hc with hc | hc
        · exact hfront c hc
        · rwa [List.mem_singleton.1 hc]
      · rw [List.foldl_cons, List.foldl_nil, hvalue]
        omega

theorem writesGroup_toDigits {n : Nat} (h : n < 65536) : WritesGroup (Nat.toDigits 16 n) n where
  ne_nil := Nat.toDigits_ne_nil
  length_le := (Nat.length_toDigits_le_iff (by decide) (by decide)).2 h
  isHexDigit := (toDigits_hex n).1
  value := (toDigits_hex n).2

/-! ## Runs of zeros -/

/-- The first of the longest runs of zeros of a list, with what is in front of it and behind it. -/
structure FirstLongest (gs high low : List Nat) (zeros : Nat) : Prop where
  eq : gs = high ++ List.replicate zeros 0 ++ low
  greatest {high' low' : List Nat} {k : Nat} (h : gs = high' ++ List.replicate k 0 ++ low') :
    k ≤ zeros
  first {high' low' : List Nat} (h : gs = high' ++ List.replicate zeros 0 ++ low')
    (hpos : 0 < zeros) : high.length ≤ high'.length

theorem eq_append_zerosAhead (gs : List Nat) :
    ∃ low, gs = List.replicate (zerosAhead gs) 0 ++ low := by
  have hzeros : gs.takeWhile (· = 0) = List.replicate (zerosAhead gs) 0 :=
    List.eq_replicate_iff.2 ⟨rfl, fun g hg => by simpa using List.mem_takeWhile_imp hg⟩
  refine ⟨gs.dropWhile (· = 0), ?_⟩
  rw [← hzeros, List.takeWhile_append_dropWhile]

theorem le_zerosAhead (k : Nat) (low : List Nat) :
    k ≤ zerosAhead (List.replicate k 0 ++ low) := by
  rw [zerosAhead, List.takeWhile_append_of_pos (by simp), List.length_append,
    List.length_replicate]
  exact Nat.le_add_right _ _

theorem firstLongest_longestRun (gs : List Nat) :
    ∃ high low, FirstLongest gs high low (longestRun gs).2 ∧ high.length = (longestRun gs).1 := by
  induction gs with
  | nil =>
    refine ⟨[], [], ⟨rfl, fun h => ?_, fun _ _ => Nat.zero_le _⟩, rfl⟩
    have hrun := (List.append_eq_nil_iff.1 (List.append_eq_nil_iff.1 h.symm).1).2
    exact Nat.le_of_eq ((List.replicate_eq_nil_iff _).1 hrun)
  | cons g gs ih =>
    obtain ⟨high, low, ⟨heq, hgreatest, hfirst⟩, hlength⟩ := ih
    rw [longestRun]
    dsimp only
    -- a run stands at the front, or behind the first number
    split
    next hle =>
      obtain ⟨low, hlow⟩ := eq_append_zerosAhead (g :: gs)
      refine ⟨[], low, ⟨hlow, fun {high' low' k} h => ?_, fun _ _ => Nat.zero_le _⟩, rfl⟩
      cases high' with
      | nil =>
        rw [h]
        exact le_zerosAhead k low'
      | cons g' high' => exact Nat.le_trans (hgreatest (List.cons.inj h).2) hle
    next hlt =>
      refine ⟨g :: high, low, ⟨congrArg (g :: ·) heq, fun {high' low' k} h => ?_,
        fun {high' low'} h hpos => ?_⟩, congrArg (· + 1) hlength⟩
      · cases high' with
        | nil =>
          have hk := le_zerosAhead k low'
          rw [← List.nil_append (List.replicate k 0), ← h] at hk
          omega
        | cons g' high' => exact hgreatest (List.cons.inj h).2
      · cases high' with
        | nil =>
          have hk := le_zerosAhead (longestRun gs).2 low'
          rw [← List.nil_append (List.replicate _ 0), ← h] at hk
          omega
        | cons g' high' => exact Nat.succ_le_succ (hfirst (List.cons.inj h).2 hpos)

/-! ## Canonical texts -/

/-- The canonical text of an address: its parts in as few digits as they have, in small letters,
and without the first longest run of zeros if there are two of them. -/
inductive WritesCanonically : List Char → Address → Prop where
  | v4 (os : List Nat) :
      WritesCanonically (['.'].intercalate (os.map (Nat.toDigits 10))) (.v4 os)
  | full {gs high low : List Nat} {zeros : Nat} (hrun : FirstLongest gs high low zeros)
      (hfew : zeros < 2) : WritesCanonically (joinGroups gs) (.v6 gs)
  | gap {gs high low : List Nat} {zeros : Nat} (hrun : FirstLongest gs high low zeros)
      (hmany : 2 ≤ zeros) :
      WritesCanonically (joinGroups high ++ ':' :: ':' :: joinGroups low) (.v6 gs)

theorem writesCanonically_renderGroups (gs : List Nat) :
    WritesCanonically (renderGroups gs) (.v6 gs) := by
  obtain ⟨high, low, hrun, hhigh⟩ := firstLongest_longestRun gs
  rw [renderGroups]
  generalize longestRun gs = run at hrun hhigh ⊢
  obtain ⟨start, zeros⟩ := run
  dsimp only at hrun hhigh ⊢
  have htake : gs.take start = high := by
    rw [hrun.eq, ← hhigh, List.append_assoc, List.take_left]
  have hdrop : gs.drop (start + zeros) = low := by
    rw [hrun.eq]
    exact List.drop_left' (by simp [hhigh])
  rw [htake, hdrop]
  split
  next hmany => exact .gap hrun hmany
  next hfew => exact .full hrun (Nat.lt_of_not_le hfew)

theorem writesCanonically_render (a : Address) : WritesCanonically a.render a := by
  cases a with
  | v4 os => exact .v4 os
  | v6 gs => exact writesCanonically_renderGroups gs

theorem writesRun_joinGroups {gs : List Nat} (hne : gs ≠ []) (h : ∀ g ∈ gs, g < 65536)
    (dotted : Bool) : WritesRun dotted (joinGroups gs) gs := by
  induction gs with
  | nil => exact absurd rfl hne
  | cons g gs ih =>
    obtain ⟨hg, hgs⟩ := List.forall_mem_cons.1 h
    cases gs with
    | nil =>
      have hjoin : joinGroups [g] = Nat.toDigits 16 g := by simp [joinGroups]
      rw [hjoin]
      exact .group (writesGroup_toDigits hg)
    | cons g' gs =>
      have hjoin : joinGroups (g :: g' :: gs) =
          Nat.toDigits 16 g ++ ':' :: joinGroups (g' :: gs) := by
        simp [joinGroups]
      rw [hjoin]
      exact .cons (writesGroup_toDigits hg) (ih (by simp) hgs)

theorem writesSide_joinGroups {gs : List Nat} (h : ∀ g ∈ gs, g < 65536) (dotted : Bool) :
    WritesSide dotted (joinGroups gs) gs := by
  cases gs with
  | nil => exact .none
  | cons g gs => exact .run (writesRun_joinGroups (by simp) h dotted)

theorem writesDotted_join {os : List Nat} (h : (v4 os).WellFormed) :
    WritesDotted (['.'].intercalate (os.map (Nat.toDigits 10))) os := by
  obtain ⟨hlength, hlt⟩ := h
  match os, hlength with
  | [i, j, k, l], _ =>
    simp only [List.forall_mem_cons] at hlt
    have hdotted := WritesDotted.intro (writesOctet_toDigits hlt.1)
      (writesOctet_toDigits hlt.2.1) (writesOctet_toDigits hlt.2.2.1)
      (writesOctet_toDigits hlt.2.2.2.1)
    simpa using hdotted

theorem WritesCanonically.writes {s : List Char} {a : Address} (h : WritesCanonically s a)
    (ha : a.WellFormed) : Writes s a := by
  cases h with
  | v4 os => exact .v4 (writesDotted_join ha)
  | full =>
    obtain ⟨hlength, hlt⟩ := ha
    exact .v6 (.full
      (writesRun_joinGroups (List.ne_nil_of_length_pos (by omega)) hlt true) hlength)
  | gap hrun hmany =>
    obtain rfl := hrun.eq
    obtain ⟨hlength, hlt⟩ := ha
    simp only [List.length_append, List.length_replicate] at hlength
    simp only [List.mem_append] at hlt
    exact .v6 (.gap (writesSide_joinGroups (fun g hg => hlt g (.inl (.inl hg))) false)
      (writesSide_joinGroups (fun g hg => hlt g (.inr hg)) true) (by omega) hlength)

theorem writes_render {a : Address} (h : a.WellFormed) : Writes a.render a :=
  (writesCanonically_render a).writes h

end ProxyMaps.Address
