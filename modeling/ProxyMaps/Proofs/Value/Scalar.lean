/-
Scalars as they are shown. The text of a scalar that is no text itself tells its
type (`typeOfText_eq`) and then its value, so two of them are shown alike only if
they are one and the same (`eq_of_display?_eq`). Different keys of a mapping are
shown alike only if one of them is a text, or both are not a number
(`clash_of_display?_eq`).
-/
import ProxyMaps.Proofs.Calendar
import ProxyMaps.Proofs.Decimal.Layout
import ProxyMaps.Proofs.Text.Quoted
import ProxyMaps.Value.Display

namespace ProxyMaps.Value

/-- The values that have no parts. -/
inductive IsScalar : Value → Prop
  | null : IsScalar .null
  | bool (b : Bool) : IsScalar (.bool b)
  | int (n : Int) : IsScalar (.int n)
  | float {x : Decimal.Binary64} (h : x.WellFormed) : IsScalar (.float x)
  | text (s : String) : IsScalar (.text s)
  | bytes (bs : List UInt8) : IsScalar (.bytes bs)
  | date (d : Date) : IsScalar (.date d)
  | moment (m : Moment) : IsScalar (.moment m)

/-- Whether a value is a text. -/
def isText : Value → Bool
  | text _ => true
  | _ => false

/-! ## Which characters a text has -/

/-- All characters of a text are digits or some others. -/
def Within (others s : List Char) : Prop := ∀ c ∈ s, c.isDigit = true ∨ c ∈ others

section Within

variable {others s t : List Char} {c : Char}

theorem within_nil : Within others [] := by
  intro c hc
  cases hc

theorem Within.cons (hc : c.isDigit = true ∨ c ∈ others) (hs : Within others s) :
    Within others (c :: s) := by
  intro d hd
  rcases List.mem_cons.1 hd with rfl | hd
  · exact hc
  · exact hs d hd

theorem Within.append (hs : Within others s) (ht : Within others t) :
    Within others (s ++ t) := by
  intro c hc
  exact (List.mem_append.1 hc).elim (hs c) (ht c)

theorem Within.mono {more : List Char} (h : Within others s) (hmore : ∀ c ∈ others, c ∈ more) :
    Within more s :=
  fun c hc => (h c hc).imp_right (hmore c)

theorem within_of_isDigit (h : ∀ c ∈ s, c.isDigit = true) : Within others s :=
  fun c hc => .inl (h c hc)

theorem Within.not_mem (h : Within others s) (hdigit : c.isDigit = false) (hc : c ∉ others) :
    c ∉ s := by
  intro hmem
  rcases h c hmem with hd | ho
  · rw [hdigit] at hd
    cases hd
  · exact hc ho

end Within

/-! ## The type of a text -/

/-- The type of the scalar that is shown as a text, unless it is a text itself. -/
def typeOfText (s : List Char) : String :=
  if s.head? = some 'b' then "bytes"
  else if 'N' ∈ s then "NoneType"
  else if 'T' ∈ s ∨ 'F' ∈ s then "bool"
  else if ' ' ∈ s then "datetime"
  else if '.' ∈ s ∨ 'e' ∈ s ∨ 'n' ∈ s then "float"
  else if '-' ∈ s.drop 1 then "date"
  else "int"

/-- The characters of numbers, dates and moments that are no digits. -/
def signs : List Char := ['-', '+', ':', '.', ' ', 'e', 'i', 'n', 'f', 'a']

/-- A text of digits and signs is that of a moment, a float, a date or an integer. -/
theorem typeOfText_of_within {s : List Char} (h : Within signs s) :
    typeOfText s =
      if ' ' ∈ s then "datetime"
      else if '.' ∈ s ∨ 'e' ∈ s ∨ 'n' ∈ s then "float"
      else if '-' ∈ s.drop 1 then "date"
      else "int" := by
  have hb : s.head? ≠ some 'b' := fun hhead =>
    h.not_mem (by decide) (by decide) (List.mem_of_mem_head? hhead)
  have hN : 'N' ∉ s := h.not_mem (by decide) (by decide)
  have hT : 'T' ∉ s := h.not_mem (by decide) (by decide)
  have hF : 'F' ∉ s := h.not_mem (by decide) (by decide)
  simp [typeOfText, hb, hN, hT, hF]

theorem typeOfText_of_within_minus {s : List Char} (h : Within ['-'] s) :
    typeOfText s = if '-' ∈ s.drop 1 then "date" else "int" := by
  have hspace : ' ' ∉ s := h.not_mem (by decide) (by decide)
  have hpoint : '.' ∉ s := h.not_mem (by decide) (by decide)
  have he : 'e' ∉ s := h.not_mem (by decide) (by decide)
  have hn : 'n' ∉ s := h.not_mem (by decide) (by decide)
  rw [typeOfText_of_within (h.mono (by simp [signs]))]
  simp [hspace, hpoint, he, hn]

/-! ## Numbers -/

section Numbers

open Decimal

theorem within_sign {others : List Char} (hminus : '-' ∈ others) (negative : Bool) :
    Within others (if negative then ['-'] else []) := by
  cases negative with
  | true => exact within_nil.cons (.inr hminus)
  | false => exact within_nil

theorem within_toDigits {others : List Char} (n : Nat) : Within others (Nat.toDigits 10 n) :=
  within_of_isDigit (isDigits_toDigits n).isDigit

theorem within_replicate {others : List Char} (k : Nat) : Within others (List.replicate k '0') :=
  within_of_isDigit (isDigit_replicate k)

theorem typeOfText_of_render? {n : Int} {s : String} (h : Integer.render? n = some s) :
    typeOfText s.toList = "int" := by
  obtain ⟨htext, -⟩ := Integer.toList_of_render? h
  have hwithin : Within ['-'] s.toList := by
    rw [htext]
    refine Within.append ?_ (within_toDigits _)
    split
    · exact within_nil.cons (.inr List.mem_cons_self)
    · exact within_nil
  have hrest : '-' ∉ s.toList.drop 1 := by
    intro hmem
    have hdigit : '-' ∈ Nat.toDigits 10 n.natAbs := by
      rw [htext] at hmem
      split at hmem
      · exact hmem
      · exact List.mem_of_mem_drop hmem
    exact absurd ((isDigits_toDigits _).isDigit _ hdigit) (by decide)
  rw [typeOfText_of_within_minus hwithin, if_neg hrest]

/-- The characters of floating point numbers that are no digits. -/
def realSigns : List Char := ['-', '+', '.', 'e', 'i', 'n', 'f', 'a']

/-- A floating point number has a point, an exponent or a name. -/
structure LooksReal (s : List Char) : Prop where
  within : Within realSigns s
  marked : '.' ∈ s ∨ 'e' ∈ s ∨ 'n' ∈ s

theorem looksReal_positional (n : Nat) (point : Int) :
    LooksReal (Shortest.positional (Nat.toDigits 10 n) point) := by
  obtain ⟨ds, hds⟩ : ∃ ds, ds = Nat.toDigits 10 n := ⟨_, rfl⟩
  have hdigits : ∀ c ∈ ds, c.isDigit = true := hds ▸ (isDigits_toDigits n).isDigit
  have hpoint : '.'.isDigit = true ∨ '.' ∈ realSigns := .inr (by decide)
  have hzero : '0'.isDigit = true ∨ '0' ∈ realSigns := .inl rfl
  rw [← hds, Shortest.positional]
  split
  · refine ⟨?_, .inl (by simp)⟩
    exact (((within_replicate _).cons hpoint).cons hzero).append (within_of_isDigit hdigits)
  dsimp only
  split
  · refine ⟨?_, .inl (by simp)⟩
    exact ((within_of_isDigit hdigits).append (within_replicate _)).append
      ((within_nil.cons hzero).cons hpoint)
  · refine ⟨?_, .inl (by simp)⟩
    exact (within_of_isDigit fun c hc => hdigits c (List.mem_of_mem_take hc)).append
      ((within_of_isDigit fun c hc => hdigits c (List.mem_of_mem_drop hc)).cons hpoint)

theorem looksReal_exponential (style : Shortest.Style) (n : Nat) (e : Int) :
    LooksReal (Shortest.exponential style (Nat.toDigits 10 n) e) := by
  obtain ⟨ds, hds⟩ : ∃ ds, ds = Nat.toDigits 10 n := ⟨_, rfl⟩
  have hdigits : ∀ c ∈ ds, c.isDigit = true := hds ▸ (isDigits_toDigits n).isDigit
  have hmantissa : Within realSigns (if ds.length ≤ 1 then ds else ds.take 1 ++ '.' :: ds.drop 1) := by
    split
    · exact within_of_isDigit hdigits
    · exact (within_of_isDigit fun c hc => hdigits c (List.mem_of_mem_take hc)).append
        ((within_of_isDigit fun c hc => hdigits c (List.mem_of_mem_drop hc)).cons
          (.inr (by decide)))
  have hsign : Within realSigns (Shortest.exponentSign style.plusSign e) := by
    unfold Shortest.exponentSign
    split
    · exact within_nil.cons (.inr (by decide))
    split
    · exact within_nil.cons (.inr (by decide))
    · exact within_nil
  rw [← hds, Shortest.exponential]
  refine ⟨?_, .inr (.inl (by simp))⟩
  exact ((hmantissa.append (hsign.cons (.inr (by decide)))).append (within_replicate _)).append
    (within_toDigits _)

theorem looksReal_render (style : Shortest.Style) (x : Binary64) :
    LooksReal (Shortest.render style x) := by
  cases x with
  | nan =>
    refine ⟨?_, .inr (.inr (by simp [Shortest.render]))⟩
    simp [Shortest.render, Within, realSigns]
  | infinite negative =>
    refine ⟨?_, .inr (.inr (by simp [Shortest.render]))⟩
    refine (within_sign (by decide) negative).append ?_
    simp [Within, realSigns]
  | finite negative n =>
    obtain ⟨point, body, hrender, -, hbody⟩ := Shortest.exists_render_finite style negative n
    have hlooks : LooksReal body := by
      rcases hbody with rfl | rfl
      · exact looksReal_positional _ _
      · exact looksReal_exponential _ _ _
    rw [hrender]
    refine ⟨(within_sign (by decide) negative).append hlooks.within, ?_⟩
    exact hlooks.marked.imp (List.mem_append_right _)
      (Or.imp (List.mem_append_right _) (List.mem_append_right _))

theorem LooksReal.typeOfText_eq {s : List Char} (h : LooksReal s) : typeOfText s = "float" := by
  rw [typeOfText_of_within (h.within.mono (by simp [realSigns, signs])),
    if_neg (h.within.not_mem (by decide) (by decide)), if_pos h.marked]

end Numbers

/-! ## Dates and moments -/

theorem within_paddedDigits {others : List Char} (width n : Nat) :
    Within others (paddedDigits width n) :=
  within_of_isDigit isDigit_of_mem_paddedDigits

theorem toList_render_date (d : Date) :
    d.render.toList = paddedDigits 4 d.year ++ '-' :: (paddedDigits 2 d.month ++ '-' ::
      paddedDigits 2 d.day) := by
  have h := d.toList_render_append []
  rwa [List.append_nil, List.append_nil] at h

theorem within_date {others : List Char} (h : '-' ∈ others) (d : Date) :
    Within others d.render.toList := by
  rw [toList_render_date]
  exact (within_paddedDigits _ _).append (((within_paddedDigits _ _).append
    ((within_paddedDigits _ _).cons (.inr h))).cons (.inr h))

theorem typeOfText_date (d : Date) : typeOfText d.render.toList = "date" := by
  have hlength : 1 ≤ (paddedDigits 4 d.year).length := by
    rw [paddedDigits, List.length_append]
    exact Nat.le_trans Nat.length_toDigits_pos (Nat.le_add_left _ _)
  have hdash : '-' ∈ d.render.toList.drop 1 := by
    rw [toList_render_date, List.drop_append_of_le_length hlength]
    simp
  rw [typeOfText_of_within_minus (within_date List.mem_cons_self d), if_pos hdash]

theorem within_fraction (microsecond : Nat) : Within signs (Moment.fraction microsecond) := by
  unfold Moment.fraction
  split
  · exact within_nil
  · exact (within_paddedDigits _ _).cons (.inr (by decide))

theorem within_zone (ahead : Option Int) : Within signs (Moment.zone ahead) := by
  cases ahead with
  | none => exact within_nil
  | some a =>
    rw [Moment.zone_some]
    refine Within.cons ?_ ((within_paddedDigits _ _).append
      ((within_paddedDigits _ _).cons (.inr (by decide))))
    split
    · exact .inr (by decide)
    · exact .inr (by decide)

theorem typeOfText_moment (m : Moment) : typeOfText m.render.toList = "datetime" := by
  have hcolon : ':'.isDigit = true ∨ ':' ∈ signs := .inr (by decide)
  have hseconds : Within signs (paddedDigits 2 m.second ++
      (Moment.fraction m.microsecond ++ Moment.zone m.ahead)) :=
    (within_paddedDigits _ _).append ((within_fraction _).append (within_zone _))
  have hminutes := ((within_paddedDigits 2 m.minute).append (hseconds.cons hcolon)).cons hcolon
  have hhours := (within_paddedDigits 2 m.hour).append hminutes
  have hwithin : Within signs m.render.toList := by
    rw [Moment.toList_render]
    exact (within_date (by decide) m.date).append (hhours.cons (.inr (by decide)))
  have hspace : ' ' ∈ m.render.toList := by
    rw [Moment.toList_render]
    simp
  rw [typeOfText_of_within hwithin, if_pos hspace]

/-! ## Scalars -/

section Scalars

variable {v w : Value} {s : String}

theorem display?_float (x : Decimal.Binary64) :
    (float x).display? = some (String.ofList (Decimal.Shortest.render Decimal.Shortest.plain x)) := by
  simp [display?, expression?, expressionIn?]

theorem display?_int (n : Int) : (int n).display? = Decimal.Integer.render? n := by
  simp [display?, expression?, expressionIn?]

theorem display?_bytes (bs : List UInt8) :
    (bytes bs).display? = some (String.ofList (Text.Quoted.quoteBytes bs)) := by
  simp [display?, expression?, expressionIn?]

theorem display?_bool (b : Bool) : (bool b).display? = some (if b then "True" else "False") := by
  simp [display?, expression?, expressionIn?]

theorem display?_null : null.display? = some "None" := by
  simp [display?, expression?, expressionIn?]

theorem display?_date (d : Date) : (date d).display? = some d.render := by
  rw [display?]

theorem display?_moment (m : Moment) : (moment m).display? = some m.render := by
  rw [display?]

/-- The text of a scalar that is no text itself tells the type of the scalar. -/
theorem typeOfText_eq (hv : v.IsScalar) (htext : v.isText = false) (h : v.display? = some s) :
    typeOfText s.toList = v.typeName := by
  cases hv with
  | null =>
    rw [display?_null] at h
    cases h
    decide
  | bool b =>
    rw [display?_bool] at h
    cases h
    cases b with
    | true => decide
    | false => decide
  | int n => exact typeOfText_of_render? (by rwa [display?_int] at h)
  | @float x hx =>
    rw [display?_float] at h
    cases h
    rw [String.toList_ofList]
    exact (looksReal_render _ x).typeOfText_eq
  | text s => cases htext
  | bytes bs =>
    rw [display?_bytes] at h
    cases h
    rw [String.toList_ofList]
    rfl
  | date d =>
    rw [display?_date] at h
    rw [← Option.some.inj h]
    exact typeOfText_date d
  | moment m =>
    rw [display?_moment] at h
    rw [← Option.some.inj h]
    exact typeOfText_moment m

theorem bool_eq_of_display?_eq {b c : Bool} (h : (bool b).display? = (bool c).display?) :
    bool b = bool c := by
  have hbool : ∀ b c : Bool,
      (if b then "True" else "False") = (if c then "True" else "False") → b = c := by decide
  rw [display?_bool, display?_bool] at h
  rw [hbool b c (Option.some.inj h)]

theorem int_eq_of_display?_eq {n m : Int} (h : (int n).display? = some s)
    (h' : (int m).display? = some s) : int n = int m := by
  rw [display?_int] at h h'
  have hread := Decimal.Integer.read_of_render? h
  rw [Decimal.Integer.read_of_render? h'] at hread
  rw [Except.ok.inj hread]

theorem float_eq_of_display?_eq {x y : Decimal.Binary64} (hx : x.WellFormed) (hy : y.WellFormed)
    (h : (float x).display? = (float y).display?) : float x = float y := by
  rw [display?_float, display?_float] at h
  rw [Decimal.Shortest.render_inj _ hx hy (String.ofList_injective (Option.some.inj h))]

theorem bytes_eq_of_display?_eq {bs cs : List UInt8}
    (h : (bytes bs).display? = (bytes cs).display?) :
    bytes bs = bytes cs := by
  rw [display?_bytes, display?_bytes] at h
  rw [Text.Quoted.quoteBytes_inj (String.ofList_injective (Option.some.inj h))]

theorem date_eq_of_display?_eq {d e : Date} (h : (date d).display? = (date e).display?) :
    date d = date e := by
  rw [display?_date, display?_date] at h
  rw [Date.render_inj (Option.some.inj h)]

theorem moment_eq_of_display?_eq {m n : Moment} (h : (moment m).display? = (moment n).display?) :
    moment m = moment n := by
  rw [display?_moment, display?_moment] at h
  rw [Moment.render_inj (Option.some.inj h)]

/-- Scalars that are shown alike and are no texts are one and the same. -/
theorem eq_of_display?_eq (hv : v.IsScalar) (hw : w.IsScalar) (htext : v.isText = false)
    (htext' : w.isText = false) (h : v.display? = some s) (h' : w.display? = some s) : v = w := by
  have htype : v.typeName = w.typeName := by
    rw [← typeOfText_eq hv htext h, typeOfText_eq hw htext' h']
  have heq : v.display? = w.display? := h.trans h'.symm
  cases hv with
  | null =>
    cases hw with
    | null => rfl
    | _ => simp [typeName] at htype
  | bool b =>
    cases hw with
    | bool c => exact bool_eq_of_display?_eq heq
    | _ => simp [typeName] at htype
  | int n =>
    cases hw with
    | int m => exact int_eq_of_display?_eq h h'
    | _ => simp [typeName] at htype
  | @float x hx =>
    cases hw with
    | @float y hy => exact float_eq_of_display?_eq hx hy heq
    | _ => simp [typeName] at htype
  | text s => cases htext
  | bytes bs =>
    cases hw with
    | bytes cs => exact bytes_eq_of_display?_eq heq
    | _ => simp [typeName] at htype
  | date d =>
    cases hw with
    | date e => exact date_eq_of_display?_eq heq
    | _ => simp [typeName] at htype
  | moment m =>
    cases hw with
    | moment n => exact moment_eq_of_display?_eq heq
    | _ => simp [typeName] at htype

/-- A scalar that is not the same key as itself is not a number. -/
theorem eq_nan_of_not_sameKey (hv : v.IsScalar) (h : v.sameKey v = false) : v = float .nan := by
  cases hv with
  | @float x hx =>
    cases x with
    | nan => rfl
    | _ => simp [sameKey] at h
  | moment m => simp [sameKey, Moment.same] at h
  | _ => simp [sameKey, keyInt?] at h

/-- Different keys with one text: a text and what is shown as it, or twice what is not a number. -/
inductive Clash : Value → Value → Prop
  | text_left {s : String} {v : Value} (htext : v.isText = false) (h : v.display? = some s) :
      Clash (.text s) v
  | text_right {s : String} {v : Value} (htext : v.isText = false) (h : v.display? = some s) :
      Clash v (.text s)
  | nan : Clash (.float .nan) (.float .nan)

theorem Clash.display?_eq (h : Clash v w) : v.display? = w.display? := by
  cases h with
  | text_left htext h =>
    rw [h, display?]
  | text_right htext h =>
    rw [h, display?]
  | nan => rfl

/-- Scalars that are different keys are shown alike only if they clash. -/
theorem clash_of_display?_eq (hv : v.IsScalar) (hw : w.IsScalar) (hkey : v.sameKey w = false)
    (h : v.display? = some s) (h' : w.display? = some s) : Clash v w := by
  cases htext : v.isText with
  | true =>
    cases v with
    | text t =>
      rw [display?, Option.some.injEq] at h
      subst h
      cases htext' : w.isText with
      | true =>
        cases w with
        | text t =>
          rw [display?, Option.some.injEq] at h'
          subst h'
          simp [sameKey] at hkey
        | _ => cases htext'
      | false => exact .text_left htext' h'
    | _ => cases htext
  | false =>
    cases htext' : w.isText with
    | true =>
      cases w with
      | text t =>
        rw [display?, Option.some.injEq] at h'
        subst h'
        exact .text_right htext h
      | _ => cases htext'
    | false =>
      obtain rfl := eq_of_display?_eq hv hw htext htext' h h'
      obtain rfl := eq_nan_of_not_sameKey hv hkey
      exact .nan

end Scalars

end ProxyMaps.Value
