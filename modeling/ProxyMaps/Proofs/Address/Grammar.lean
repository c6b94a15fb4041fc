/-
Which texts write an address, and which one. The grammar stands by itself:
octets of one to three digits with points between them; groups of one to four
hexadecimal digits with colons between them, of which the last two may be
written as octets, and of which one run of zeros may be left out where two
colons meet.

A text is read exactly if the grammar has it, as the address that it writes
(`read?_eq_some_iff`). The two colons are found at the end of the groups in front
of them, because no group is empty (`WritesSide.cutGap?_append`).
-/
import ProxyMaps.Address
import ProxyMaps.Proofs.Decimal.Numeral

namespace ProxyMaps.Address

/-! ## Octets -/

/-- One to three digits that write an octet, without a zero in front of others. -/
structure WritesOctet (s : List Char) (n : Nat) : Prop where
  isDigits : Decimal.IsDigits s
  length_le : s.length ≤ 3
  eq_zero : s.head? = some '0' → s = ['0']
  value : Nat.ofDigitChars 10 s 0 = n
  le : n ≤ 255

/-- Four octets with points between them. -/
inductive WritesDotted : List Char → List Nat → Prop where
  | intro {a b c d : List Char} {i j k l : Nat} (ha : WritesOctet a i) (hb : WritesOctet b j)
      (hc : WritesOctet c k) (hd : WritesOctet d l) :
      WritesDotted (a ++ '.' :: (b ++ '.' :: (c ++ '.' :: d))) [i, j, k, l]

section

variable {s : List Char} {n : Nat} {os : List Nat}

theorem octet?_eq_some_iff : octet? s = some n ↔ WritesOctet s n := by
  have hdigits := Decimal.isDigits_iff (s := s)
  rw [octet?]
  constructor
  · intro h
    split at h
    · cases h
    next hshape =>
      split at h
      · cases h
      next hzero =>
        simp only [Decimal.foldl_eq_ofDigitChars, Option.ite_none_right_eq_some,
          Option.some.injEq] at h
        simp only [Bool.or_eq_true, Bool.not_eq_true', decide_eq_true_eq, not_or,
          Bool.not_eq_true, Bool.not_eq_false, Nat.not_lt] at hshape
        obtain ⟨hle, rfl⟩ := h
        exact ⟨hdigits.2 (by simp [hshape.1.1, hshape.1.2]), hshape.2, by simpa using hzero, rfl,
          hle⟩
  · intro h
    have hshape := hdigits.1 h.isDigits
    rw [Bool.and_eq_true, Bool.not_eq_true'] at hshape
    have hlength : ¬ 3 < s.length := Nat.not_lt.2 h.length_le
    have hzero : ¬ (s.head? = some '0' ∧ s ≠ ['0']) := fun hz => hz.2 (h.eq_zero hz.1)
    simp [hshape.1, hshape.2, hlength, hzero, Decimal.foldl_eq_ofDigitChars, h.value, h.le]

theorem WritesOctet.ne_of_mem (h : WritesOctet s n) {c : Char} (hc : c ∈ s) :
    c ≠ '.' ∧ c ≠ ':' ∧ c ≠ '/' := by
  have hdigit := h.isDigits.isDigit c hc
  refine ⟨?_, ?_, ?_⟩ <;> rintro rfl <;> cases hdigit

theorem octets?_eq_some_iff : octets? s = some os ↔ WritesDotted s os := by
  rw [octets?]
  constructor
  · intro h
    obtain ⟨hfour, hread⟩ := Option.ite_none_right_eq_some.1 h
    obtain ⟨a, b, c, d, hpieces⟩ : ∃ a b c d, List.splitOn '.' s = [a, b, c, d] := by
      match List.splitOn '.' s, hfour with
      | [a, b, c, d], _ => exact ⟨a, b, c, d, rfl⟩
    have hs : ['.'].intercalate (List.splitOn '.' s) = s := List.intercalate_splitOn '.'
    rw [hpieces] at hs hread
    simp only [List.mapM_cons, List.mapM_nil, Option.bind_eq_bind, Option.bind_eq_some_iff,
      Option.pure_def, Option.some.injEq, octet?_eq_some_iff] at hread
    obtain ⟨i, ha, _, ⟨j, hb, _, ⟨k, hc, _, ⟨l, hd, _, rfl, rfl⟩, rfl⟩, rfl⟩, rfl⟩ := hread
    simp only [List.intercalate_cons_cons, List.intercalate_singleton, List.append_assoc,
      List.singleton_append] at hs
    exact hs ▸ .intro ha hb hc hd
  · rintro ⟨ha, hb, hc, hd⟩
    have hpieces : ∀ {t : List Char} {m : Nat}, WritesOctet t m → List.splitOn '.' t = [t] :=
      fun ht => List.splitOn_eq_singleton fun hmem => (ht.ne_of_mem hmem).1 rfl
    simp only [List.splitOn_append_cons_self, hpieces ha, hpieces hb, hpieces hc, hpieces hd]
    simp [octet?_eq_some_iff.2 ha, octet?_eq_some_iff.2 hb, octet?_eq_some_iff.2 hc,
      octet?_eq_some_iff.2 hd]

theorem WritesDotted.point_mem (h : WritesDotted s os) : '.' ∈ s := by
  obtain ⟨-, -, -, -⟩ := h
  simp

theorem WritesDotted.not_mem {c : Char} (h : WritesDotted s os) (hc : c = ':' ∨ c = '/') :
    c ∉ s := by
  obtain ⟨ha, hb, hc', hd⟩ := h
  have hpoint : c ≠ '.' := by rintro rfl; revert hc; decide
  have hpiece : ∀ {t : List Char} {m : Nat}, WritesOctet t m → c ∉ t := fun ht hmem => by
    obtain ⟨-, hcolon, hslash⟩ := ht.ne_of_mem hmem
    exact hc.elim hcolon hslash
  simp [hpiece ha, hpiece hb, hpiece hc', hpiece hd, hpoint]

end

/-! ## Groups -/

/-- A hexadecimal digit of either case. -/
def IsHexDigit (c : Char) : Prop :=
  c.isDigit = true ∨ ('a' ≤ c ∧ c ≤ 'f') ∨ ('A' ≤ c ∧ c ≤ 'F')

instance (c : Char) : Decidable (IsHexDigit c) :=
  inferInstanceAs (Decidable (_ ∨ (_ ∧ _) ∨ (_ ∧ _)))

/-- What a hexadecimal digit stands for. -/
def hexDigit (c : Char) : Nat := (Text.hexValue? c).getD 0

/-- One to four hexadecimal digits that write a group of 16 bits. -/
structure WritesGroup (s : List Char) (n : Nat) : Prop where
  ne_nil : s ≠ []
  length_le : s.length ≤ 4
  isHexDigit : ∀ c ∈ s, IsHexDigit c
  value : s.foldl (fun n c => n * 16 + hexDigit c) 0 = n

section

variable {s : List Char} {n : Nat}

theorem isSome_hexValue?_iff {c : Char} : (Text.hexValue? c).isSome = true ↔ IsHexDigit c := by
  have hle : ∀ a b : Char, a ≤ b ↔ a.toNat ≤ b.toNat := fun _ _ => Iff.rfl
  simp only [Text.hexValue?, Text.asciiDigitValue?, IsHexDigit, Bool.and_eq_true,
    decide_eq_true_eq, hle, Char.reduceToNat]
  by_cases hdigit : c.isDigit = true
  · have hvalue := Decimal.toNat_of_isDigit hdigit
    simp only [hdigit, if_true, Option.filter, true_or, iff_true]
    rw [if_pos (by rw [decide_eq_true_eq]; omega)]
    rfl
  · simp only [hdigit, if_false, Bool.false_eq_true, false_or]
    split
    · simp only [Option.filter, decide_eq_true_eq, Option.isSome_ite]
      omega
    split
    · simp only [Option.filter, decide_eq_true_eq, Option.isSome_ite]
      omega
    · simp only [Option.filter_none, Option.isSome_none, Bool.false_eq_true, false_iff]
      omega

theorem hexValue?_eq_some_iff {c : Char} {d : Nat} :
    Text.hexValue? c = some d ↔ IsHexDigit c ∧ hexDigit c = d := by
  rw [← isSome_hexValue?_iff, hexDigit]
  cases Text.hexValue? c <;> simp

theorem mapM_hexValue?_eq_some_iff {ds : List Nat} :
    s.mapM Text.hexValue? = some ds ↔ (∀ c ∈ s, IsHexDigit c) ∧ s.map hexDigit = ds := by
  induction s generalizing ds with
  | nil => simp
  | cons c s ih =>
    simp only [List.mapM_cons, Option.bind_eq_bind, Option.bind_eq_some_iff, Option.pure_def,
      Option.some.injEq, hexValue?_eq_some_iff, ih, List.forall_mem_cons, List.map_cons]
    constructor
    · rintro ⟨d, ⟨hc, rfl⟩, ds, ⟨hs, rfl⟩, rfl⟩
      exact ⟨⟨hc, hs⟩, rfl⟩
    · rintro ⟨⟨hc, hs⟩, rfl⟩
      exact ⟨_, ⟨hc, rfl⟩, _, ⟨hs, rfl⟩, rfl⟩

theorem group?_eq_some_iff : group? s = some n ↔ WritesGroup s n := by
  rw [group?]
  simp only [Bool.or_eq_true, List.isEmpty_iff, decide_eq_true_eq, Option.ite_none_left_eq_some,
    not_or, Nat.not_lt, Option.map_eq_some_iff, mapM_hexValue?_eq_some_iff]
  constructor
  · rintro ⟨⟨hne, hlength⟩, _, ⟨hs, rfl⟩, rfl⟩
    exact ⟨hne, hlength, hs, by rw [List.foldl_map]⟩
  · rintro ⟨hne, hlength, hs, rfl⟩
    exact ⟨⟨hne, hlength⟩, _, ⟨hs, rfl⟩, by rw [List.foldl_map]⟩

theorem WritesGroup.ne_of_mem (h : WritesGroup s n) {c : Char} (hc : c ∈ s) :
    c ≠ '.' ∧ c ≠ ':' ∧ c ≠ '/' := by
  have hdigit := h.isHexDigit c hc
  refine ⟨?_, ?_, ?_⟩ <;> rintro rfl <;> revert hdigit <;> decide

end

/-! ## Runs of groups -/

/-- Groups with colons between them; the last two may be written as octets if `dotted`. -/
inductive WritesRun (dotted : Bool) : List Char → List Nat → Prop where
  | group {s : List Char} {n : Nat} (h : WritesGroup s n) : WritesRun dotted s [n]
  | octets {s : List Char} {i j k l : Nat} (hdotted : dotted = true)
      (h : WritesDotted s [i, j, k, l]) : WritesRun dotted s [i * 256 + j, k * 256 + l]
  | cons {s t : List Char} {n : Nat} {ns : List Nat} (h : WritesGroup s n)
      (rest : WritesRun dotted t ns) : WritesRun dotted (s ++ ':' :: t) (n :: ns)

/-- What may stand on a side of two colons: nothing, or a run of groups. -/
inductive WritesSide (dotted : Bool) : List Char → List Nat → Prop where
  | none : WritesSide dotted [] []
  | run {s : List Char} {ns : List Nat} (h : WritesRun dotted s ns) : WritesSide dotted s ns

section

variable {dotted : Bool} {s : List Char} {ns : List Nat}

theorem WritesRun.ne_nil (h : WritesRun dotted s ns) : s ≠ [] := by
  cases h with
  | group h => exact h.ne_nil
  | octets _ h => exact List.ne_nil_of_mem h.point_mem
  | cons h rest => simp

theorem WritesRun.head?_ne (h : WritesRun dotted s ns) : s.head? ≠ some ':' := by
  intro hhead
  cases h with
  | group h => exact (h.ne_of_mem (List.mem_of_head? hhead)).2.1 rfl
  | octets _ h => exact h.not_mem (.inl rfl) (List.mem_of_head? hhead)
  | cons h rest =>
    rw [List.head?_append, Option.or_of_isSome (List.isSome_head?.2 h.ne_nil)] at hhead
    exact (h.ne_of_mem (List.mem_of_head? hhead)).2.1 rfl

theorem WritesRun.slash_not_mem (h : WritesRun dotted s ns) : '/' ∉ s := by
  induction h with
  | group h => exact fun hmem => (h.ne_of_mem hmem).2.2 rfl
  | octets _ h => exact h.not_mem (.inr rfl)
  | @cons s _ _ _ h _ ih =>
    have hgroup : '/' ∉ s := fun hmem => (h.ne_of_mem hmem).2.2 rfl
    simp [hgroup, ih]

theorem WritesSide.slash_not_mem (h : WritesSide dotted s ns) : '/' ∉ s := by
  cases h with
  | none => exact List.not_mem_nil
  | run h => exact h.slash_not_mem

theorem WritesRun.cons_join {p : List Char} {n : Nat} {pieces : List (List Char)}
    (hp : WritesGroup p n) (hne : pieces ≠ [])
    (hrest : WritesRun dotted ([':'].intercalate pieces) ns) :
    WritesRun dotted ([':'].intercalate (p :: pieces)) (n :: ns) := by
  cases pieces with
  | nil => exact absurd rfl hne
  | cons q pieces =>
    rw [List.intercalate_cons_cons, List.append_assoc, List.singleton_append]
    exact .cons hp hrest

/-- The pieces of a run, if none of them is dotted. -/
theorem writesRun_of_mapM {pieces : List (List Char)} (hne : pieces ≠ [])
    (h : pieces.mapM group? = some ns) : WritesRun dotted ([':'].intercalate pieces) ns := by
  induction pieces generalizing ns with
  | nil => exact absurd rfl hne
  | cons p pieces ih =>
    simp only [List.mapM_cons, Option.bind_eq_bind, Option.bind_eq_some_iff, Option.pure_def,
      Option.some.injEq, group?_eq_some_iff] at h
    obtain ⟨n, hp, ns, hrest, rfl⟩ := h
    by_cases hmore : pieces = []
    · subst hmore
      cases hrest
      rw [List.intercalate_singleton]
      exact .group hp
    · exact .cons_join hp hmore (ih hmore hrest)

theorem writesRun_of_groups? {pieces : List (List Char)} (hne : pieces ≠ [])
    (h : groups? pieces = some ns) : WritesRun true ([':'].intercalate pieces) ns := by
  fun_induction groups? pieces generalizing ns with
  | case1 => exact absurd rfl hne
  | case2 last hpoint a b c d hread =>
    cases h
    rw [List.intercalate_singleton]
    exact .octets rfl (octets?_eq_some_iff.1 hread)
  | case3 => cases h
  | case4 last hpoint =>
    obtain ⟨n, hlast, rfl⟩ := Option.map_eq_some_iff.1 h
    rw [List.intercalate_singleton]
    exact .group (group?_eq_some_iff.1 hlast)
  | case5 p pieces hmore ih =>
    simp only [Option.bind_eq_bind, Option.bind_eq_some_iff, Option.pure_def, Option.some.injEq,
      group?_eq_some_iff] at h
    obtain ⟨n, hp, ns, hrest, rfl⟩ := h
    exact .cons_join hp hmore (ih hmore hrest)

theorem WritesGroup.splitOn_eq {n : Nat} (h : WritesGroup s n) : List.splitOn ':' s = [s] :=
  List.splitOn_eq_singleton fun hmem => (h.ne_of_mem hmem).2.1 rfl

theorem WritesRun.mapM_splitOn (h : WritesRun false s ns) :
    (List.splitOn ':' s).mapM group? = some ns := by
  induction h with
  | group h => simp [h.splitOn_eq, group?_eq_some_iff.2 h]
  | octets hdotted => cases hdotted
  | cons h _ ih =>
    rw [List.splitOn_append_cons_self, h.splitOn_eq]
    simp [group?_eq_some_iff.2 h, ih]

theorem WritesRun.groups?_splitOn (h : WritesRun dotted s ns) :
    groups? (List.splitOn ':' s) = some ns := by
  induction h with
  | group h =>
    have hpoint : ¬ '.' ∈ _ := fun hmem => (h.ne_of_mem hmem).1 rfl
    rw [h.splitOn_eq, groups?, if_neg (by simpa using hpoint), group?_eq_some_iff.2 h,
      Option.map_some]
  | octets _ h =>
    rw [List.splitOn_eq_singleton (h.not_mem (.inl rfl)), groups?,
      if_pos (by simpa using h.point_mem), octets?_eq_some_iff.2 h]
  | @cons s t n ns h rest ih =>
    obtain ⟨p, pieces, hpieces⟩ := List.exists_cons_of_ne_nil (List.splitOn_ne_nil ':' t)
    rw [List.splitOn_append_cons_self, h.splitOn_eq, List.singleton_append, hpieces]
    rw [hpieces] at ih
    simp [groups?, group?_eq_some_iff.2 h, ih]

/-- A side is read as a run is, where it is not empty. -/
theorem parts_eq_some_iff {read : List (List Char) → Option (List Nat)} (hnil : read [] = some [])
    (hrun : read (List.splitOn ':' s) = some ns ↔ WritesRun dotted s ns) :
    read (parts s) = some ns ↔ WritesSide dotted s ns := by
  rw [parts]
  split
  next hempty =>
    rw [List.isEmpty_iff] at hempty
    subst hempty
    rw [hnil, Option.some.injEq]
    constructor
    · rintro rfl
      exact .none
    · rintro (_ | h)
      · rfl
      · exact absurd rfl h.ne_nil
  next hempty =>
    rw [hrun]
    refine ⟨.run, fun h => ?_⟩
    cases h with
    | none => exact absurd rfl hempty
    | run h => exact h

/-- What is read on the left of two colons. -/
theorem mapM_parts_eq_some_iff : (parts s).mapM group? = some ns ↔ WritesSide false s ns := by
  refine parts_eq_some_iff rfl ⟨fun h => ?_, WritesRun.mapM_splitOn⟩
  have hs : [':'].intercalate (List.splitOn ':' s) = s := List.intercalate_splitOn ':'
  exact hs ▸ writesRun_of_mapM (List.splitOn_ne_nil ':' s) h

/-- What is read on the right of two colons, or without any. -/
theorem groups?_parts_eq_some_iff : groups? (parts s) = some ns ↔ WritesSide true s ns := by
  refine parts_eq_some_iff rfl ⟨fun h => ?_, WritesRun.groups?_splitOn⟩
  have hs : [':'].intercalate (List.splitOn ':' s) = s := List.intercalate_splitOn ':'
  exact hs ▸ writesRun_of_groups? (List.splitOn_ne_nil ':' s) h

/-! ## Two colons -/

theorem eq_of_cutGap? {left right : List Char} (h : cutGap? s = some (left, right)) :
    s = left ++ ':' :: ':' :: right := by
  fun_induction cutGap? s generalizing left with
  | case1 rest =>
    cases h
    rfl
  | case2 c rest _ ih =>
    obtain ⟨⟨front, back⟩, hcut, heq⟩ := Option.map_eq_some_iff.1 h
    cases heq
    rw [ih hcut]
    rfl
  | case3 => cases h

/-- What is no colon, or a colon that no other one follows, is in front of the gap. -/
theorem cutGap?_cons {c : Char} {t : List Char} (h : c = ':' → t.head? ≠ some ':') :
    cutGap? (c :: t) = (cutGap? t).map fun p => (c :: p.1, p.2) := by
  rw [cutGap?]
  rintro rest rfl rfl
  exact h rfl rfl

theorem cutGap?_append (h : ':' ∉ s) (t : List Char) :
    cutGap? (s ++ t) = (cutGap? t).map fun p => (s ++ p.1, p.2) := by
  induction s with
  | nil => simp
  | cons c s ih =>
    rw [List.mem_cons, not_or] at h
    rw [List.cons_append, cutGap?_cons fun heq => absurd heq.symm h.1, ih h.2, Option.map_map]
    rfl

/-- There is no gap in a run. -/
theorem WritesRun.cutGap?_append (h : WritesRun dotted s ns) (t : List Char) :
    cutGap? (s ++ t) = (cutGap? t).map fun p => (s ++ p.1, p.2) := by
  induction h with
  | group h => exact Address.cutGap?_append (fun hmem => (h.ne_of_mem hmem).2.1 rfl) t
  | octets _ h => exact Address.cutGap?_append (h.not_mem (.inl rfl)) t
  | @cons s s' n ns h rest ih =>
    have hhead : (s' ++ t).head? ≠ some ':' := by
      rw [List.head?_append, Option.or_of_isSome (List.isSome_head?.2 rest.ne_nil)]
      exact rest.head?_ne
    rw [List.append_assoc, List.cons_append,
      Address.cutGap?_append (fun hmem => (h.ne_of_mem hmem).2.1 rfl), cutGap?_cons fun _ => hhead,
      ih, Option.map_map, Option.map_map]
    simp [Function.comp_def]

theorem WritesRun.cutGap?_eq_none (h : WritesRun dotted s ns) : cutGap? s = none := by
  rw [← List.append_nil s, h.cutGap?_append]
  rfl

/-- The two colons are found behind what stands on their left. -/
theorem WritesSide.cutGap?_append (h : WritesSide dotted s ns) (right : List Char) :
    cutGap? (s ++ ':' :: ':' :: right) = some (s, right) := by
  cases h with
  | none => rfl
  | run h =>
    rw [h.cutGap?_append]
    simp [cutGap?]

end

/-! ## Addresses -/

/-- The eight groups of an address, written out or with zeros left out where two colons meet. -/
inductive WritesGroups : List Char → List Nat → Prop where
  | full {s : List Char} {gs : List Nat} (h : WritesRun true s gs) (hlength : gs.length = 8) :
      WritesGroups s gs
  | gap {left right : List Char} {high low : List Nat} {zeros : Nat}
      (hleft : WritesSide false left high) (hright : WritesSide true right low)
      (hpos : 0 < zeros) (hlength : high.length + zeros + low.length = 8) :
      WritesGroups (left ++ ':' :: ':' :: right) (high ++ List.replicate zeros 0 ++ low)

/-- The texts of an address. -/
inductive Writes : List Char → Address → Prop where
  | v4 {s : List Char} {os : List Nat} (h : WritesDotted s os) : Writes s (.v4 os)
  | v6 {s : List Char} {gs : List Nat} (h : WritesGroups s gs) : Writes s (.v6 gs)

section

variable {s : List Char} {gs : List Nat} {a : Address}

theorem sixteenBitGroups?_eq_some_iff : sixteenBitGroups? s = some gs ↔ WritesGroups s gs := by
  constructor
  · intro h
    unfold sixteenBitGroups? at h
    split at h
    next left right hcut =>
      simp only [Option.bind_eq_bind, Option.bind_eq_some_iff, Option.ite_none_right_eq_some,
        Option.some.injEq, mapM_parts_eq_some_iff, groups?_parts_eq_some_iff] at h
      obtain ⟨high, hleft, low, hright, hgiven, rfl⟩ := h
      rw [eq_of_cutGap? hcut]
      exact .gap hleft hright (by omega) (by omega)
    · obtain ⟨hread, hlength⟩ := Option.filter_eq_some_iff.1 h
      rw [decide_eq_true_eq] at hlength
      cases groups?_parts_eq_some_iff.1 hread with
      | none => cases hlength
      | run h => exact .full h hlength
  · rintro (⟨h, hlength⟩ | ⟨hleft, hright, hpos, hlength⟩)
    · have hread := groups?_parts_eq_some_iff.2 (.run h)
      rw [sixteenBitGroups?, h.cutGap?_eq_none]
      exact Option.filter_eq_some_iff.2 ⟨hread, by rw [decide_eq_true_eq, hlength]⟩
    · rw [sixteenBitGroups?, hleft.cutGap?_append]
      simp only [Option.bind_eq_bind, Option.bind_eq_some_iff, Option.ite_none_right_eq_some,
        Option.some.injEq, mapM_parts_eq_some_iff, groups?_parts_eq_some_iff]
      exact ⟨_, hleft, _, hright, by omega, by congr; omega⟩

/-- There is a colon in eight groups, so they are no octets. -/
theorem WritesGroups.octets?_eq_none (h : WritesGroups s gs) : octets? s = none := by
  have hcolon : ':' ∈ s := by
    cases h with
    | gap => simp
    | full h hlength =>
      cases h with
      | group => cases hlength
      | octets => cases hlength
      | cons => simp
  rw [Option.eq_none_iff_forall_ne_some]
  intro os hos
  exact (octets?_eq_some_iff.1 hos).not_mem (.inl rfl) hcolon

theorem WritesGroups.slash_not_mem (h : WritesGroups s gs) : '/' ∉ s := by
  cases h with
  | full h => exact h.slash_not_mem
  | gap hleft hright => simp [hleft.slash_not_mem, hright.slash_not_mem]

theorem Writes.slash_not_mem (h : Writes s a) : '/' ∉ s := by
  cases h with
  | v4 h => exact h.not_mem (.inr rfl)
  | v6 h => exact h.slash_not_mem

theorem read?_eq_some_iff : read? s = some a ↔ Writes s a := by
  constructor
  · intro h
    unfold read? at h
    split at h
    next os hos =>
      cases h
      exact .v4 (octets?_eq_some_iff.1 hos)
    · obtain ⟨gs, hgs, rfl⟩ := Option.map_eq_some_iff.1 h
      exact .v6 (sixteenBitGroups?_eq_some_iff.1 hgs)
  · intro h
    cases h with
    | v4 h => rw [read?, octets?_eq_some_iff.2 h]
    | v6 h => rw [read?, h.octets?_eq_none, sixteenBitGroups?_eq_some_iff.2 h, Option.map_some]

end

end ProxyMaps.Address
