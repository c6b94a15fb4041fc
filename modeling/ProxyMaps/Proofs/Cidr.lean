/-
Blocks of addresses. A text is read as a block exactly if it is an address, or
an address, a slash and a length that the address has bits for
(`accepts_exactly_grammar`). The canonical text of a block is read as the same
block, so it is canonical itself, and two blocks share it only if they are the
same (`canonical_read_back`).
-/
import ProxyMaps.Cidr
import ProxyMaps.Proofs.Address.Canonical
import ProxyMaps.Proofs.Text.Split

namespace ProxyMaps.Cidr

/-- One to three digits that write a length. -/
structure WritesLength (s : List Char) (n : Nat) : Prop where
  isDigits : Decimal.IsDigits s
  length_le : s.length ≤ 3
  value : Nat.ofDigitChars 10 s 0 = n

/-- The texts of a block: an address, or an address, a slash and a length. -/
inductive Writes : List Char → Cidr → Prop where
  | lone {s : List Char} {a : Address} (ha : Address.Writes s a) : Writes s ⟨a, a.width, false⟩
  | range {s t : List Char} {a : Address} {n : Nat} (ha : Address.Writes s a)
      (hn : WritesLength t n) (hle : n ≤ a.width) : Writes (s ++ '/' :: t) ⟨a, n, true⟩

section

variable {s : List Char} {n : Nat} {c : Cidr} {spec : String}

theorem length?_eq_some_iff : length? s = some n ↔ WritesLength s n := by
  have hdigits := Decimal.isDigits_iff (s := s)
  rw [Bool.and_eq_true, Bool.not_eq_true'] at hdigits
  simp only [length?, Bool.or_eq_true, decide_eq_true_eq, Bool.not_eq_true',
    Option.ite_none_left_eq_some, not_or, Bool.not_eq_true, Bool.not_eq_false, Nat.not_lt,
    Option.some.injEq, Decimal.foldl_eq_ofDigitChars]
  constructor
  · rintro ⟨⟨⟨hne, hlength⟩, hall⟩, rfl⟩
    exact ⟨hdigits.2 ⟨hne, hall⟩, hlength, rfl⟩
  · rintro ⟨hs, hlength, rfl⟩
    obtain ⟨hne, hall⟩ := hdigits.1 hs
    exact ⟨⟨⟨hne, hlength⟩, hall⟩, rfl⟩

theorem ofParts_none_eq_ok_iff :
    ofParts s none = .ok c ↔ ∃ a, Address.Writes s a ∧ c = ⟨a, a.width, false⟩ := by
  simp only [← Address.read?_eq_some_iff]
  cases h : Address.read? s with
  | none => simp [ofParts, h]
  | some a => simp [ofParts, h, eq_comm]

theorem ofParts_some_eq_ok_iff :
    ofParts s (some n) = .ok c ↔ ∃ a, Address.Writes s a ∧ n ≤ a.width ∧ c = ⟨a, n, true⟩ := by
  simp only [← Address.read?_eq_some_iff]
  cases h : Address.read? s with
  | none => simp [ofParts, h]
  | some a => by_cases hle : n ≤ a.width <;> simp [ofParts, h, hle, eq_comm]

theorem cutFirst?_of_writes {a : Address} (h : Address.Writes s a) :
    Text.cutFirst? '/' s = none :=
  Text.cutFirst?_eq_none_iff.2 h.slash_not_mem

theorem read_eq_ok_iff : read spec = .ok c ↔ Writes spec.toList c := by
  constructor
  · intro h
    unfold read at h
    split at h
    next text digits hcut =>
      obtain ⟨hspec, -⟩ := Text.cutFirst?_eq_some_iff.1 hcut
      split at h
      next n hn =>
        obtain ⟨a, ha, hle, rfl⟩ := ofParts_some_eq_ok_iff.1 h
        rw [hspec]
        exact .range ha (length?_eq_some_iff.1 hn) hle
      · cases h
    · obtain ⟨a, ha, rfl⟩ := ofParts_none_eq_ok_iff.1 h
      exact .lone ha
  · intro h
    rw [read]
    generalize spec.toList = s at h
    cases h with
    | lone ha =>
      rw [cutFirst?_of_writes ha]
      exact ofParts_none_eq_ok_iff.2 ⟨_, ha, rfl⟩
    | range ha hn hle =>
      rw [Text.cutFirst?_eq_some_iff.2 ⟨rfl, ha.slash_not_mem⟩]
      simp only [length?_eq_some_iff.2 hn]
      exact ofParts_some_eq_ok_iff.2 ⟨_, ha, hle, rfl⟩

theorem Writes.isRange_iff (h : Writes s c) : c.isRange = true ↔ '/' ∈ s := by
  cases h with
  | lone ha => simpa using ha.slash_not_mem
  | range => simp

theorem Fault.message_ne_empty (f : Fault) : f.message ≠ "" := by
  intro h
  unfold Fault.message at h
  cases f with
  | badLength =>
    simp only [String.append_eq_empty_iff] at h
    exact absurd h.1.1 (by decide)
  | badAddress =>
    simp only [String.append_eq_empty_iff] at h
    exact absurd h.1 (by decide)
  | tooLong =>
    simp only [String.append_eq_empty_iff] at h
    exact absurd h.1.1.1.1.1 (by decide)

theorem canonical_of_read (h : read spec = .ok c) : canonical spec = .ok c.render := by
  rw [canonical, h]

/-- **The grammar of blocks.** A text is accepted exactly if the grammar has it.
Then it is read as the block that it writes, with the length that it gives or
all bits of the address, and it has a canonical text. If not, there is a message
that says why, and no canonical text. -/
theorem accepts_exactly_grammar (spec : String) :
    (accepts spec = true ↔ ∃ c, Writes spec.toList c) ∧
    (∀ c, read spec = .ok c ↔ Writes spec.toList c) ∧
    (∀ c, read spec = .ok c →
      (c.isRange = true ↔ '/' ∈ spec.toList) ∧ canonical spec = .ok c.render) ∧
    (accepts spec = false →
      ∃ f, read spec = .error f ∧ f.message ≠ "" ∧ canonical spec = .error .invalid) := by
  refine ⟨?_, fun c => read_eq_ok_iff, fun c h => ⟨(read_eq_ok_iff.1 h).isRange_iff,
    canonical_of_read h⟩, fun h => ?_⟩
  · simp only [← read_eq_ok_iff, accepts]
    cases read spec <;> simp [Except.isOk, Except.toBool]
  · cases hread : read spec with
    | ok c => simp [accepts, hread, Except.isOk, Except.toBool] at h
    | error f => exact ⟨f, rfl, f.message_ne_empty, by rw [canonical, hread]⟩

theorem accepts_exactly_grammar_tunnelled :
    read "64:ff9b::192.0.2.33/96" =
        .ok ⟨.v6 [0x64, 0xff9b, 0, 0, 0, 0, 0xc000, 0x221], 96, true⟩ ∧
      Writes "64:ff9b::192.0.2.33/96".toList
        ⟨.v6 [0x64, 0xff9b, 0, 0, 0, 0, 0xc000, 0x221], 96, true⟩ ∧
      accepts "10.0.0.01" = false ∧ canonical "10.0.0.01" = .error .invalid := by
  have hread : read "64:ff9b::192.0.2.33/96" =
      .ok ⟨.v6 [0x64, 0xff9b, 0, 0, 0, 0, 0xc000, 0x221], 96, true⟩ := by decide
  have hnone : accepts "10.0.0.01" = false := by decide
  obtain ⟨-, hwrites, -, -⟩ := accepts_exactly_grammar "64:ff9b::192.0.2.33/96"
  obtain ⟨-, -, -, hrefused⟩ := accepts_exactly_grammar "10.0.0.01"
  obtain ⟨f, -, -, hcanonical⟩ := hrefused hnone
  exact ⟨hread, (hwrites _).1 hread, hnone, hcanonical⟩

/-! ## Canonical texts -/

theorem Writes.length_le (h : Writes s c) : c.length ≤ c.address.width := by
  cases h with
  | lone => exact Nat.le_refl _
  | range _ _ hle => exact hle

theorem Writes.address_wellFormed (h : Writes s c) : c.address.WellFormed := by
  cases h with
  | lone ha => exact ha.wellFormed
  | range ha => exact ha.wellFormed

theorem width_lt (a : Address) : a.width < 1000 := by
  cases a <;> simp [Address.width]

theorem toList_render (c : Cidr) :
    c.render.toList = c.address.render ++ '/' :: Nat.toDigits 10 c.length := by
  have hlength : (toString c.length).toList = Nat.toDigits 10 c.length := Nat.toList_repr
  have hslash : (toString "/").toList = ['/'] := rfl
  rw [render, String.toList_append, String.toList_append, String.toList_ofList, hlength, hslash]
  rfl

theorem writes_render (hlength : c.length ≤ c.address.width) (ha : c.address.WellFormed) :
    Writes c.render.toList { c with isRange := true } := by
  have hwidth := width_lt c.address
  rw [toList_render]
  exact .range (Address.writes_render ha)
    ⟨Decimal.isDigits_toDigits _, (Nat.length_toDigits_le_iff (by decide) (by decide)).2 (by omega),
      Nat.ofDigitChars_ten_toDigits⟩ hlength

theorem read_render (h : read spec = .ok c) : read c.render = .ok { c with isRange := true } := by
  have hwrites := read_eq_ok_iff.1 h
  exact read_eq_ok_iff.2 (writes_render hwrites.length_le hwrites.address_wellFormed)

/-- **Canonical texts.** The canonical text of a block is that of its address, a
slash and the length. It is accepted, it is read as the same address and length,
and it is its own canonical text. Two texts have the same one exactly if they
write addresses of one version and number, and the same length. -/
theorem canonical_read_back :
    (∀ spec c, read spec = .ok c →
      canonical spec = .ok c.render ∧
      (∃ text, Address.WritesCanonically text c.address ∧
        c.render.toList = text ++ '/' :: Nat.toDigits 10 c.length) ∧
      read c.render = .ok { c with isRange := true } ∧
      canonical c.render = .ok c.render) ∧
    ∀ spec spec' c c', read spec = .ok c → read spec' = .ok c' →
      (c.render = c'.render ↔ c.address.version = c'.address.version ∧
        c.address.number = c'.address.number ∧ c.length = c'.length) := by
  refine ⟨fun spec c h => ⟨canonical_of_read h,
      ⟨_, c.address.writesCanonically_render, toList_render c⟩, read_render h, ?_⟩,
    fun spec spec' c c' h h' => ⟨fun hrender => ?_, fun ⟨hversion, hnumber, hlength⟩ => ?_⟩⟩
  · -- whether the length was given is not written
    exact (canonical_of_read (read_render h)).trans rfl
  · have hback := read_render h
    rw [hrender, read_render h'] at hback
    simp only [Except.ok.injEq, Cidr.mk.injEq, and_true] at hback
    rw [hback.1, hback.2]
    exact ⟨rfl, rfl, rfl⟩
  · have haddress := Address.eq_of_number_eq (read_eq_ok_iff.1 h).address_wellFormed
      (read_eq_ok_iff.1 h').address_wellFormed hversion hnumber
    rw [render, render, haddress, hlength]

end

theorem canonical_read_back_shortened :
    let c : Cidr := ⟨.v6 [0x2001, 0xdb8, 0, 0, 1, 0, 0, 0], 64, true⟩
    let c' : Cidr := ⟨.v6 [0x2001, 0xdb8, 0, 0, 0, 1, 0, 0], 64, true⟩
    read "2001:DB8:0:0:1::/64" = .ok c ∧ read "2001:db8::1:0.0.0.0/064" = .ok c' ∧
      canonical "2001:DB8:0:0:1::/64" = .ok "2001:db8:0:0:1::/64" ∧
      read "2001:db8:0:0:1::/64" = .ok c ∧ c.render ≠ c'.render := by
  intro c c'
  have hread : read "2001:DB8:0:0:1::/64" = .ok c := by decide
  have hread' : read "2001:db8::1:0.0.0.0/064" = .ok c' := by decide
  have hrender : c.render = "2001:db8:0:0:1::/64" := by decide
  obtain ⟨hback, hsame⟩ := canonical_read_back
  obtain ⟨hcanonical, -, hagain, -⟩ := hback _ c hread
  rw [hrender] at hcanonical hagain
  refine ⟨hread, hread', hcanonical, hagain, fun heq => ?_⟩
  obtain ⟨-, hnumber, -⟩ := (hsame _ _ c c' hread hread').1 heq
  revert hnumber
  simp [c, c', Address.number, Nat.ofDigits_cons]

end ProxyMaps.Cidr
