/-
JSON text read back. Without numbers other than integers of 64 bits, a document
that is not nested too deeply has a text (`Exact.exists_spells`), in front of
which the readers find the document and behind it whatever stands there
(`Spells.read`). So what is written of a document is read as the document
(`Exact.read?_write`).
-/
import Mathlib.Data.List.Forall2
import ProxyMaps.Proofs.Json.Scalar
import ProxyMaps.Proofs.Lists

namespace ProxyMaps.Json

/-- Documents nested at most `depth` deep, without numbers other than integers of 64 bits. -/
inductive Exact : Nat → Json → Prop where
  | null {depth : Nat} : Exact depth .null
  | bool {depth : Nat} (b : Bool) : Exact depth (.bool b)
  | int {depth : Nat} {n : Int} (h : fits64 n = true) : Exact depth (.int n)
  | text {depth : Nat} (s : String) : Exact depth (.text s)
  | list {depth : Nat} {items : List Json} (h : ∀ x ∈ items, Exact depth x) :
      Exact (depth + 1) (.list items)
  | object {depth : Nat} {fields : List (String × Json)} (h : ∀ f ∈ fields, Exact depth f.2) :
      Exact (depth + 1) (.object fields)

/-- A text that writes a document nested at most `depth` deep. -/
structure Spells (depth : Nat) (j : Json) (w : List Char) : Prop where
  /-- The reader of a list looks for its end in front of the first item. -/
  starts : ∃ c rest, w = c :: rest ∧ Reader.isBlank c = false ∧ c ≠ ']'
  read : ∀ {fuel level : Nat} {rest : List Char}, w.length ≤ fuel → depth ≤ level → Ended rest →
    Reader.value? fuel level (w ++ rest) = some (j, rest)

theorem skipBlank_cons {c : Char} (h : Reader.isBlank c = false) (rest : List Char) :
    Reader.skipBlank (c :: rest) = c :: rest := by
  simp [Reader.skipBlank, h]

/-! ## Documents without parts -/

section Scalars

variable {depth : Nat}

theorem Spells.of_scalar {j : Json} {c : Char} {w : List Char} (hblank : Reader.isBlank c = false)
    (hbracket : c ≠ ']')
    (h : ∀ (fuel level : Nat) (rest : List Char), Ended rest →
      Reader.value? (fuel + 1) level (c :: w ++ rest) = some (j, rest)) :
    Spells depth j (c :: w) where
  starts := ⟨c, w, rfl, hblank, hbracket⟩
  read {fuel level rest} hfuel _ hrest := by
    cases fuel with
    | zero => cases hfuel
    | succ fuel => exact h fuel level rest hrest

theorem spells_null : Spells depth .null ['n', 'u', 'l', 'l'] :=
  .of_scalar (by decide) (by decide) fun _ _ _ _ => rfl

theorem spells_bool (b : Bool) : Spells depth (.bool b)
    (if b then ['t', 'r', 'u', 'e'] else ['f', 'a', 'l', 's', 'e']) := by
  cases b with
  | false => exact .of_scalar (by decide) (by decide) fun _ _ _ _ => rfl
  | true => exact .of_scalar (by decide) (by decide) fun _ _ _ _ => rfl

theorem spells_text (s : String) : Spells depth (.text s) (Writer.string s) := by
  refine .of_scalar (by decide) (by decide) fun fuel level rest _ => ?_
  obtain ⟨inner, hinner, hread⟩ := string?_string s rest
  change Reader.value? (fuel + 1) level (Writer.string s ++ rest) = _
  rw [hinner, List.cons_append, Reader.value?, skipBlank_cons (by decide)]
  simp only [hread, Option.map_some, String.ofList_toList]

theorem isBlank_of_isDigit {c : Char} (h : c.isDigit = true) : Reader.isBlank c = false := by
  simp only [Reader.isBlank, Bool.or_eq_false_iff, decide_eq_false_iff_not]
  refine ⟨⟨⟨?_, ?_⟩, ?_⟩, ?_⟩ <;>
  · rintro rfl
    exact absurd h (by decide)

/-- A text that begins with a digit is a number. -/
theorem value?_digit {c : Char} (h : c.isDigit = true) (fuel level : Nat) (rest : List Char) :
    Reader.value? (fuel + 1) level (c :: rest) = Reader.number? false (c :: rest) := by
  rw [Reader.value?, skipBlank_cons (isBlank_of_isDigit h)]
  split
  case h_8 => rfl
  all_goals
    next heq =>
      cases heq
      exact absurd h (by decide)

theorem exists_cons_toDigits (n : Nat) :
    ∃ c ds, Nat.toDigits 10 n = c :: ds ∧ c.isDigit = true := by
  obtain ⟨c, ds, hds⟩ := List.exists_cons_of_ne_nil (Nat.toDigits_ne_nil (n := n) (b := 10))
  exact ⟨c, ds, hds, (Decimal.isDigits_toDigits n).isDigit c (hds ▸ List.mem_cons_self)⟩

theorem spells_int (n : Int) : Spells depth (.int n) (toString n).toList := by
  cases n with
  | ofNat n =>
    have hwritten : (toString (Int.ofNat n)).toList = Nat.toDigits 10 n := Nat.toList_repr
    obtain ⟨c, ds, hds, hdigit⟩ := exists_cons_toDigits n
    have hbracket : c ≠ ']' := by
      rintro rfl
      exact absurd hdigit (by decide)
    rw [hwritten, hds]
    refine .of_scalar (isBlank_of_isDigit hdigit) hbracket fun fuel level rest hrest => ?_
    have hnumber := number?_digits false n hrest
    rw [hds, List.cons_append] at hnumber
    rw [List.cons_append, value?_digit hdigit, hnumber]
    rfl
  | negSucc n =>
    have hrepr : toString (Int.negSucc n) = "-" ++ (n + 1).repr := rfl
    have hwritten : (toString (Int.negSucc n)).toList = '-' :: Nat.toDigits 10 (n + 1) := by
      rw [hrepr, String.toList_append, Nat.toList_repr]
      rfl
    rw [hwritten]
    refine .of_scalar (by decide) (by decide) fun fuel level rest hrest => ?_
    rw [List.cons_append, Reader.value?, skipBlank_cons (by decide)]
    exact number?_digits true (n + 1) hrest

end Scalars

/-! ## Lists and objects -/

section Containers

variable {depth : Nat}

/-- The items of a list are read up to the bracket behind them. -/
theorem items?_intercalate {xs : List Json} {ws : List (List Char)}
    (h : List.Forall₂ (Spells depth) xs ws) (hne : xs ≠ []) {fuel level : Nat}
    (hfuel : ([','].intercalate ws).length < fuel) (hlevel : depth ≤ level) (rest : List Char) :
    Reader.items? fuel level ([','].intercalate ws ++ ']' :: rest) = some (xs, rest) := by
  induction h generalizing fuel with
  | nil => exact absurd rfl hne
  | @cons x w xs ws hw hws ih =>
    cases fuel with
    | zero => cases hfuel
    | succ fuel =>
      cases hws with
      | nil =>
        rw [List.intercalate_singleton] at hfuel ⊢
        rw [Reader.items?, hw.read (Nat.lt_succ_iff.1 hfuel) hlevel (.bracket rest)]
        rfl
      | @cons y v ys vs hv hvs =>
        rw [List.intercalate_singleton_cons_cons, List.length_append, List.length_cons] at hfuel
        have hrest : Reader.items? fuel level ([','].intercalate (v :: vs) ++ ']' :: rest) =
            some (y :: ys, rest) := ih (List.cons_ne_nil y ys) (by omega)
        rw [List.intercalate_singleton_cons_cons, List.append_assoc, List.cons_append,
          Reader.items?, hw.read (by omega) hlevel (.comma _)]
        simp only [Option.bind_eq_bind, Option.bind_some, skipBlank_cons (c := ',') (by decide),
          hrest]
        rfl

/-- A field as it is written without white space. -/
def fieldText (name : String) (w : List Char) : List Char := Writer.string name ++ [':'] ++ w

/-- A text that writes a field. -/
def SpellsField (depth : Nat) (f : String × Json) (piece : List Char) : Prop :=
  ∃ w, piece = fieldText f.1 w ∧ Spells depth f.2 w

/-- A field is read up to what stands behind it, which tells whether there are more. -/
theorem fields?_fieldText {x : Json} {w : List Char} (hw : Spells depth x w) (name : String)
    {fuel level : Nat} (hfuel : (fieldText name w).length ≤ fuel) (hlevel : depth ≤ level)
    {rest : List Char} (hrest : Ended rest) :
    Reader.fields? (fuel + 1) level (fieldText name w ++ rest) =
      match Reader.skipBlank rest with
      | '\x7d' :: rest => some ([(name, x)], rest)
      | ',' :: rest => (Reader.fields? fuel level rest).map fun p => ((name, x) :: p.1, p.2)
      | _ => none := by
  obtain ⟨inner, hinner, hread⟩ := string?_string name (':' :: (w ++ rest))
  have htext : fieldText name w ++ rest = '"' :: (inner ++ ':' :: (w ++ rest)) := by
    simp [fieldText, hinner]
  have hvalue : Reader.value? fuel level (w ++ rest) = some (x, rest) := by
    refine hw.read ?_ hlevel hrest
    rw [fieldText, List.length_append] at hfuel
    omega
  rw [htext, Reader.fields?, skipBlank_cons (by decide)]
  simp only [hread, Option.bind_eq_bind, Option.bind_some, skipBlank_cons (c := ':') (by decide),
    hvalue, String.ofList_toList]
  cases hrest with
  | nil => rfl
  | bracket rest => rfl
  | brace rest => rfl
  | comma rest => exact Option.map_eq_bind.symm

/-- The fields of an object are read up to the brace behind them. -/
theorem fields?_intercalate {fs : List (String × Json)} {pieces : List (List Char)}
    (h : List.Forall₂ (SpellsField depth) fs pieces) (hne : fs ≠ []) {fuel level : Nat}
    (hfuel : ([','].intercalate pieces).length < fuel) (hlevel : depth ≤ level) (rest : List Char) :
    Reader.fields? fuel level ([','].intercalate pieces ++ '\x7d' :: rest) = some (fs, rest) := by
  induction h generalizing fuel with
  | nil => exact absurd rfl hne
  | @cons f piece fs pieces hf hfs ih =>
    obtain ⟨w, rfl, hw⟩ := hf
    cases fuel with
    | zero => cases hfuel
    | succ fuel =>
      cases hfs with
      | nil =>
        rw [List.intercalate_singleton] at hfuel ⊢
        exact fields?_fieldText hw f.1 (Nat.lt_succ_iff.1 hfuel) hlevel (.brace rest)
      | @cons g next gs others hg hgs =>
        rw [List.intercalate_singleton_cons_cons, List.length_append, List.length_cons] at hfuel
        have hrest : Reader.fields? fuel level
            ([','].intercalate (next :: others) ++ '\x7d' :: rest) = some (g :: gs, rest) :=
          ih (List.cons_ne_nil g gs) (by omega)
        rw [List.intercalate_singleton_cons_cons, List.append_assoc, List.cons_append,
          fields?_fieldText hw f.1 (by omega) hlevel (.comma _)]
        simp only [skipBlank_cons (c := ',') (by decide), hrest]
        rfl

theorem bracket_compact (level : Nat) (first last : Char) (pieces : List (List Char)) :
    Writer.bracket .compact level first last pieces =
      first :: ([','].intercalate pieces ++ [last]) := by
  cases pieces with
  | nil => rfl
  | cons piece pieces => simp [Writer.bracket, Writer.lineBreak]

theorem Spells.of_brackets {j : Json} {first last : Char} {inner : List Char}
    (hblank : Reader.isBlank first = false) (hbracket : first ≠ ']')
    (h : ∀ (fuel level : Nat) (rest : List Char), inner.length < fuel → depth ≤ level →
      Reader.value? (fuel + 1) (level + 1) (first :: (inner ++ last :: rest)) = some (j, rest)) :
    Spells (depth + 1) j (first :: (inner ++ [last])) where
  starts := ⟨first, _, rfl, hblank, hbracket⟩
  read {fuel level rest} hfuel hlevel _ := by
    cases fuel with
    | zero => cases hfuel
    | succ fuel =>
      cases level with
      | zero => cases hlevel
      | succ level =>
        simp only [List.length_cons, List.length_append] at hfuel
        rw [List.cons_append, List.append_assoc, List.singleton_append]
        exact h fuel level rest (by omega) (Nat.le_of_succ_le_succ hlevel)

theorem spells_list {xs : List Json} {ws : List (List Char)}
    (h : List.Forall₂ (Spells depth) xs ws) (n : Nat) :
    Spells (depth + 1) (.list xs) (Writer.bracket .compact n '[' ']' ws) := by
  rw [bracket_compact]
  refine .of_brackets (by decide) (by decide) fun fuel level rest hfuel hlevel => ?_
  rw [Reader.value?, skipBlank_cons (by decide)]
  cases h with
  | nil => rfl
  | @cons x w xs ws hw hws =>
    have hitems := items?_intercalate (.cons hw hws) (List.cons_ne_nil x xs) hfuel hlevel rest
    obtain ⟨c, tail, hc, hblank, hbracket⟩ := hw.starts
    obtain ⟨tail, htail⟩ := List.exists_cons_intercalate hc ',' ws
    rw [htail, List.cons_append] at hitems ⊢
    simp only [skipBlank_cons hblank]
    split
    next heq => exact absurd (List.cons.inj heq).1 hbracket
    · rw [hitems]
      rfl

theorem SpellsField.starts {f : String × Json} {piece : List Char} (h : SpellsField depth f piece) :
    ∃ rest, piece = '"' :: rest := by
  obtain ⟨w, rfl, -⟩ := h
  exact ⟨_, rfl⟩

theorem spells_object {fs : List (String × Json)} {pieces : List (List Char)}
    (h : List.Forall₂ (SpellsField depth) fs pieces) (n : Nat) :
    Spells (depth + 1) (.object fs) (Writer.bracket .compact n '\x7b' '\x7d' pieces) := by
  rw [bracket_compact]
  refine .of_brackets (by decide) (by decide) fun fuel level rest hfuel hlevel => ?_
  rw [Reader.value?, skipBlank_cons (by decide)]
  cases h with
  | nil => rfl
  | @cons f piece fs pieces hf hfs =>
    have hfields := fields?_intercalate (.cons hf hfs) (List.cons_ne_nil f fs) hfuel hlevel rest
    obtain ⟨tail, hpiece⟩ := hf.starts
    obtain ⟨tail, htail⟩ := List.exists_cons_intercalate hpiece ',' pieces
    rw [htail, List.cons_append] at hfields ⊢
    simp only [skipBlank_cons (c := '"') (by decide)]
    change Option.map _ (Reader.fields? fuel level _) = _
    rw [hfields]
    rfl

end Containers

/-! ## Writing, and reading what is written -/

section

variable {depth : Nat}

theorem items_eq_ok {P : Json → List Char → Prop} {level : Nat} {xs : List Json}
    (h : ∀ x ∈ xs, ∃ w, Writer.value .compact level x = .ok w ∧ P x w) :
    ∃ ws, Writer.items .compact level xs = .ok ws ∧ List.Forall₂ P xs ws := by
  induction xs with
  | nil => exact ⟨[], rfl, .nil⟩
  | cons x xs ih =>
    obtain ⟨w, hw, hx⟩ := h x List.mem_cons_self
    obtain ⟨ws, hws, hxs⟩ := ih fun y hy => h y (List.mem_cons_of_mem x hy)
    refine ⟨w :: ws, ?_, .cons hx hxs⟩
    rw [Writer.items, hw, hws]
    rfl

theorem fields_eq_ok {P : Json → List Char → Prop} {level : Nat} {fs : List (String × Json)}
    (h : ∀ f ∈ fs, ∃ w, Writer.value .compact level f.2 = .ok w ∧ P f.2 w) :
    ∃ ws, Writer.fields .compact level fs = .ok ws ∧
      List.Forall₂ (fun f w => w.1 = f.1 ∧ P f.2 w.2) fs ws := by
  induction fs with
  | nil => exact ⟨[], rfl, .nil⟩
  | cons f fs ih =>
    obtain ⟨name, x⟩ := f
    obtain ⟨w, hw, hx⟩ := h (name, x) List.mem_cons_self
    obtain ⟨ws, hws, hfs⟩ := ih fun g hg => h g (List.mem_cons_of_mem _ hg)
    refine ⟨(name, w) :: ws, ?_, .cons ⟨rfl, hx⟩ hfs⟩
    rw [Writer.fields, hw, hws]
    rfl

/-- A document that is not nested too deeply has a text, from which it is read. -/
theorem Exact.exists_spells {j : Json} (h : Exact depth j) {level : Nat}
    (hlevel : level + depth ≤ Writer.maxDepth) :
    ∃ w, Writer.value .compact level j = .ok w ∧ Spells depth j w := by
  -- a container leaves one level less for what is in it, both to the depth and to the writer
  induction h generalizing level with
  | null => exact ⟨_, rfl, spells_null⟩
  | bool b => cases b <;> exact ⟨_, rfl, spells_bool _⟩
  | @int _ n hn =>
    refine ⟨(toString n).toList, ?_, spells_int n⟩
    rw [Writer.value, if_pos hn]
  | text s => exact ⟨_, rfl, spells_text s⟩
  | @list depth items _ ih =>
    have hdeep : ¬ Writer.maxDepth ≤ level := by omega
    obtain ⟨ws, hws, hspells⟩ := items_eq_ok fun x hx =>
      ih x hx (show level + 1 + depth ≤ Writer.maxDepth by omega)
    refine ⟨_, ?_, spells_list hspells level⟩
    rw [Writer.value, if_neg hdeep, hws]
    rfl
  | @object depth fields _ ih =>
    have hdeep : ¬ Writer.maxDepth ≤ level := by omega
    obtain ⟨ws, hws, hspells⟩ := fields_eq_ok fun f hf =>
      ih f hf (show level + 1 + depth ≤ Writer.maxDepth by omega)
    have hpieces : List.Forall₂ (SpellsField depth) fields
        (ws.map fun w => fieldText w.1 w.2) := by
      rw [List.forall₂_map_right_iff]
      exact hspells.imp fun f w hw => ⟨w.2, congrArg (fieldText · w.2) hw.1, hw.2⟩
    refine ⟨_, ?_, spells_object hpieces level⟩
    rw [Writer.value, if_neg hdeep, hws]
    rfl

/-- A text that writes a document writes it with nothing behind it, too. -/
theorem Spells.read?_ofList {j : Json} {w : List Char} (h : Spells depth j w)
    (hdepth : depth ≤ Reader.maxDepth) : read? (String.ofList w) = some j := by
  have hvalue : Reader.value? (2 * w.length + 2) Reader.maxDepth w = some (j, []) := by
    have hread := h.read (show w.length ≤ 2 * w.length + 2 by omega) hdepth .nil
    rwa [List.append_nil] at hread
  simp only [read?, String.toList_ofList, hvalue]
  rfl

theorem narrowItems?_eq_self {xs : List Json} (h : ∀ x ∈ xs, narrow? x = some x) :
    narrowItems? xs = some xs := by
  induction xs with
  | nil => rfl
  | cons x xs ih =>
    rw [narrowItems?, h x List.mem_cons_self, ih fun y hy => h y (List.mem_cons_of_mem x hy)]
    rfl

theorem narrowFields?_eq_self {fs : List (String × Json)} (h : ∀ f ∈ fs, narrow? f.2 = some f.2) :
    narrowFields? fs = some fs := by
  induction fs with
  | nil => rfl
  | cons f fs ih =>
    obtain ⟨name, x⟩ := f
    rw [narrowFields?, h (name, x) List.mem_cons_self,
      ih fun g hg => h g (List.mem_cons_of_mem _ hg)]
    rfl

/-- Readers that keep 64 bits see such a document as it is. -/
theorem Exact.narrow?_eq_self {j : Json} (h : Exact depth j) : narrow? j = some j := by
  induction h with
  | null => rfl
  | bool b => rfl
  | int h => rw [narrow?, if_pos h]
  | text s => rfl
  | list _ ih => rw [narrow?, narrowItems?_eq_self ih, Option.map_some]
  | object _ ih => rw [narrow?, narrowFields?_eq_self ih, Option.map_some]

end

/-- What is written of a document is read as the document. -/
theorem Exact.read?_write {j : Json} (h : Exact Writer.maxDepth j) :
    ∃ text, write .compact j = .ok text ∧ (read? text).bind narrow? = some j := by
  obtain ⟨w, hw, hspells⟩ := h.exists_spells (Nat.le_of_eq (Nat.zero_add _))
  refine ⟨String.ofList w, ?_, ?_⟩
  · rw [write, hw]
    rfl
  · rw [hspells.read?_ofList (by decide), Option.bind_some, h.narrow?_eq_self]

/-- The text of an object begins with a brace. -/
theorem head?_of_write_object {fs : List (String × Json)} {text : String}
    (h : write .compact (.object fs) = .ok text) : text.toList.head? = some '\x7b' := by
  have hshallow : ¬ Writer.maxDepth ≤ 0 := by decide
  rw [write, Writer.value, if_neg hshallow] at h
  cases hfields : Writer.fields .compact (0 + 1) fs with
  | error fault =>
    rw [hfields] at h
    cases h
  | ok ws =>
    rw [hfields] at h
    cases h
    rw [String.toList_ofList, bracket_compact]
    rfl

end ProxyMaps.Json
