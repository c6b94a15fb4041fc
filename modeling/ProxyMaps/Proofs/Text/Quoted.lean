/-
Byte strings in quotes. No code of a byte begins another one or the closing
quote, so the bytes can be told from the text (`quoteBytes_inj`).
-/
import Mathlib.Data.List.Basic
import ProxyMaps.Text.Digit
import ProxyMaps.Text.Quoted

namespace ProxyMaps.Text.Quoted

/-- The code of a byte inside of a quote: a character, a short escape or a numbered one. -/
inductive Code (q : Char) : List Char → Prop
  | plain {c : Char} (hc : c ≠ '\\') (hq : c ≠ q) : Code q [c]
  | short {c : Char} (hc : c ≠ 'x') : Code q ['\\', c]
  | numbered (high low : Char) : Code q ['\\', 'x', high, low]

theorem Code.append_inj {q : Char} {s t rest rest' : List Char} (hs : Code q s) (ht : Code q t)
    (h : s ++ rest = t ++ rest') : s = t ∧ rest = rest' := by
  cases hs with
  | plain hs =>
    cases ht with
    | plain =>
      obtain ⟨rfl, hrest⟩ := List.cons.inj h
      exact ⟨rfl, hrest⟩
    | short => exact absurd (List.cons.inj h).1 hs
    | numbered => exact absurd (List.cons.inj h).1 hs
  | short hs =>
    cases ht with
    | plain ht => exact absurd (List.cons.inj h).1.symm ht
    | short =>
      obtain ⟨rfl, hrest⟩ := List.cons.inj (List.cons.inj h).2
      exact ⟨rfl, hrest⟩
    | numbered => exact absurd (List.cons.inj (List.cons.inj h).2).1 hs
  | numbered =>
    cases ht with
    | plain ht => exact absurd (List.cons.inj h).1.symm ht
    | short ht => exact absurd (List.cons.inj (List.cons.inj h).2).1.symm ht
    | numbered =>
      simp only [List.cons_append, List.nil_append, List.cons.injEq, true_and] at h
      obtain ⟨rfl, rfl, h⟩ := h
      exact ⟨rfl, h⟩

/-- A code does not begin with the quote. -/
theorem Code.append_ne {q : Char} {s rest : List Char} (hs : Code q s) (hq : q ≠ '\\') :
    s ++ rest ≠ [q] := by
  cases hs with
  | plain _ hc =>
    intro h
    exact hc (List.cons.inj h).1
  | short =>
    intro h
    exact hq (List.cons.inj h).1.symm
  | numbered =>
    intro h
    exact hq (List.cons.inj h).1.symm

/-- The quotes that byte strings are put in. -/
def IsMark (q : Char) : Prop := q = '\'' ∨ q = '"'

theorem isMark_mark (s : List Char) : IsMark (mark s) := by
  unfold mark
  split
  · exact .inr rfl
  · exact .inl rfl

theorem length_hex : ∀ n < 256, (hex 2 n).length = 2 := by
  decide +kernel

theorem code_escapeByte {q : Char} (hq : IsMark q) (b : UInt8) : Code q (escapeByte q b) := by
  obtain ⟨c, hc⟩ : ∃ c, c = Char.ofNat b.toNat := ⟨_, rfl⟩
  have hqx : q ≠ 'x' := by
    rcases hq with rfl | rfl
    · decide
    · decide
  simp only [escapeByte, ← hc, shortEscape?]
  by_cases hquote : c = q ∨ c = '\\'
  · have hcx : c ≠ 'x' := by
      rcases hquote with rfl | rfl
      · exact hqx
      · decide
    simpa [hquote] using Code.short hcx
  rw [not_or] at hquote
  simp only [hquote, decide_false, Bool.or_false, Bool.false_eq_true, if_false]
  by_cases htab : c = '\t'
  · simpa [htab] using Code.short (by decide : 't' ≠ 'x')
  by_cases hline : c = '\n'
  · simpa [hline] using Code.short (by decide : 'n' ≠ 'x')
  by_cases hreturn : c = '\r'
  · simpa [hreturn] using Code.short (by decide : 'r' ≠ 'x')
  simp only [htab, hline, hreturn, if_false]
  split
  · exact .plain hquote.2 hquote.1
  · obtain ⟨high, low, hhex⟩ := List.length_eq_two.1 (length_hex b.toNat b.toNat_lt)
    rw [hhex]
    exact .numbered high low

/-- The number of the byte that has a code. -/
def byteOfCode : List Char → Nat
  | ['\\', 'x', high, low] => (hexValue? high).getD 0 * 16 + (hexValue? low).getD 0
  | ['\\', 't'] => 9
  | ['\\', 'n'] => 10
  | ['\\', 'r'] => 13
  | ['\\', c] => c.toNat
  | [c] => c.toNat
  | _ => 0

theorem byteOfCode_single : ∀ n < 256, byteOfCode (escapeByte '\'' (UInt8.ofNat n)) = n := by
  decide +kernel

theorem byteOfCode_double : ∀ n < 256, byteOfCode (escapeByte '"' (UInt8.ofNat n)) = n := by
  decide +kernel

theorem byteOfCode_escapeByte {q : Char} (hq : IsMark q) (b : UInt8) :
    byteOfCode (escapeByte q b) = b.toNat := by
  rw [← UInt8.ofNat_toNat (x := b)]
  rcases hq with rfl | rfl
  · rw [byteOfCode_single b.toNat b.toNat_lt, UInt8.ofNat_toNat]
  · rw [byteOfCode_double b.toNat b.toNat_lt, UInt8.ofNat_toNat]

theorem escapeByte_inj {q : Char} (hq : IsMark q) {b c : UInt8}
    (h : escapeByte q b = escapeByte q c) : b = c := by
  rw [← UInt8.toNat_inj, ← byteOfCode_escapeByte hq b, h, byteOfCode_escapeByte hq c]

theorem flatMap_escapeByte_inj {q : Char} (hq : IsMark q) {bs cs : List UInt8}
    (h : bs.flatMap (escapeByte q) ++ [q] = cs.flatMap (escapeByte q) ++ [q]) : bs = cs := by
  have hslash : q ≠ '\\' := by
    rcases hq with rfl | rfl
    · decide
    · decide
  induction bs generalizing cs with
  | nil =>
    cases cs with
    | nil => rfl
    | cons c cs =>
      rw [List.flatMap_cons, List.append_assoc] at h
      exact absurd h.symm ((code_escapeByte hq c).append_ne hslash)
  | cons b bs ih =>
    cases cs with
    | nil =>
      rw [List.flatMap_cons, List.append_assoc] at h
      exact absurd h ((code_escapeByte hq b).append_ne hslash)
    | cons c cs =>
      rw [List.flatMap_cons, List.flatMap_cons, List.append_assoc, List.append_assoc] at h
      obtain ⟨hcode, hrest⟩ := (code_escapeByte hq b).append_inj (code_escapeByte hq c) h
      rw [escapeByte_inj hq hcode, ih hrest]

/-- Byte strings with one text are one. -/
theorem quoteBytes_inj {bs cs : List UInt8} (h : quoteBytes bs = quoteBytes cs) : bs = cs := by
  simp only [quoteBytes, List.cons_append, List.cons.injEq, true_and] at h
  obtain ⟨hmark, h⟩ := h
  rw [hmark] at h
  exact flatMap_escapeByte_inj (isMark_mark _) h

end ProxyMaps.Text.Quoted
