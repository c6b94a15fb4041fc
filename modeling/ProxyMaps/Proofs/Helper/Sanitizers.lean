/-
The helpers for annotations, and when they have no answer. Most of them always
have one. Two can fail: it is not told of a numeral whether it is an integer if
it is too long to be read (`isInteger_eq`), and a text is not indented by more
blanks than a text can have (`indent_eq`).
-/
import ProxyMaps.Proofs.AnnotationValue.Indent
import ProxyMaps.Proofs.Decimal.Numeral
import ProxyMaps.Proofs.Helper.Standard

namespace ProxyMaps

namespace AnnotationValue

open Decimal (IsDigits)
open Decimal.Integer (cutSign cutSign_cases cutSign_of_isDigits read_of_cutSign)

/-- A numeral with an optional sign and too many digits to be read. -/
def IsOverlong (s : List Char) : Prop :=
  ∃ sign digits, s = sign ++ digits ∧ sign ∈ [[], ['+'], ['-']] ∧ IsDigits digits ∧
    Decimal.maxDigits < digits.length

theorem isNumeral_iff {s : List Char} : isNumeral s = true ↔ IsDigits (cutSign s).2 :=
  Decimal.isDigits_iff.symm

theorem isOverlong_iff {s : List Char} :
    IsOverlong s ↔ isNumeral s = true ∧ Decimal.maxDigits < (cutSign s).2.length := by
  rw [isNumeral_iff]
  constructor
  · rintro ⟨sign, digits, rfl, hsign, hd, hlong⟩
    have hcut : (cutSign (sign ++ digits)).2 = digits := by
      simp only [List.mem_cons, List.not_mem_nil, or_false] at hsign
      rcases hsign with rfl | rfl | rfl
      · exact congrArg Prod.snd (cutSign_of_isDigits hd)
      · rfl
      · rfl
    rw [hcut]
    exact ⟨hd, hlong⟩
  · rintro ⟨hd, hlong⟩
    rcases cutSign_cases (rfl : cutSign s = ((cutSign s).1, (cutSign s).2)) with
      ⟨h, -⟩ | ⟨h, -⟩ | ⟨h, -⟩
    · exact ⟨['-'], _, h, by simp, hd, hlong⟩
    · exact ⟨['+'], _, h, by simp, hd, hlong⟩
    · exact ⟨[], _, h, by simp, hd, hlong⟩

/-- It is told of every text whether it is an integer, unless it is an overlong numeral. -/
theorem isInteger_eq (value : String) :
    (IsOverlong value.toList ∧
        isInteger value = .error (.tooLong (cutSign value.toList).2.length)) ∨
      (¬ IsOverlong value.toList ∧ ∃ b, isInteger value = .ok b) := by
  rw [isOverlong_iff, isInteger]
  by_cases hnumeral : isNumeral value.toList = true
  · have hd := isNumeral_iff.1 hnumeral
    generalize hcut : cutSign value.toList = cut at hd ⊢
    have hread := read_of_cutSign hcut hd
    by_cases hlong : Decimal.maxDigits < cut.2.length
    · refine .inl ⟨⟨hnumeral, hlong⟩, ?_⟩
      rw [if_pos hnumeral, hread, if_pos hlong]
      rfl
    · refine .inr ⟨fun h => hlong h.2, ?_⟩
      rw [if_pos hnumeral, hread, if_neg hlong]
      exact ⟨_, rfl⟩
  · exact .inr ⟨fun h => hnumeral h.1, false, if_neg hnumeral⟩

end AnnotationValue

namespace Helper

open AnnotationValue (IsOverlong)

section

variable [Text.CharacterNames]

/-- What comes out of a call of a helper, whatever the world, which it leaves as it is. -/
def Gives (around : Surroundings) (name : String) (args : List Argument)
    (r : Except RunFault Argument) : Prop :=
  ∃ run, (standard around).call name args = .ok run ∧ ∀ w, run w = (r, w)

/-- A call of a helper has an answer. -/
def Answers (around : Surroundings) (name : String) (args : List Argument) : Prop :=
  ∃ a, Gives around name args (.ok a)

section

variable {around : Surroundings}

theorem Gives.unique {name : String} {args : List Argument} {r r' : Except RunFault Argument}
    (h : Gives around name args r) (h' : Gives around name args r') : r = r' := by
  obtain ⟨run, hcall, hrun⟩ := h
  obtain ⟨run', hcall', hrun'⟩ := h'
  obtain rfl := Except.ok.inj (hcall.symm.trans hcall')
  exact congrArg Prod.fst ((hrun {}).symm.trans (hrun' {}))

theorem Gives.not_answers {name : String} {args : List Argument} {f : RunFault}
    (h : Gives around name args (.error f)) : ¬ Answers around name args := fun ⟨_, ha⟩ =>
  nomatch h.unique ha

theorem gives_of_mem {e : Entry} {arity : Arity} {args : List Argument}
    {r : Except RunFault Argument} (hmem : e ∈ entries around)
    (harity : Arity.ofSignature e.signature = .ok arity)
    (haccepts : arity.accepts args.length = true) (hrun : ∀ w, e.run args w = (r, w)) :
    Gives around e.name args r :=
  ⟨_, call_standard hmem harity haccepts, hrun⟩

/-! ## The helpers for annotations -/

/-- A function of one text always has an answer. -/
theorem gives_onText {e : Entry} {p : String} {f : String → Argument} (hmem : e ∈ entries around)
    (hsignature : e.signature = [required p]) (hrun : e.run = onText f) (s : String) :
    Gives around e.name [.text s] (.ok (f s)) := by
  have harity : Arity.ofSignature e.signature = .ok ⟨1, some 1⟩ := by
    rw [hsignature]
    rfl
  refine gives_of_mem hmem harity rfl fun w => ?_
  rw [hrun]
  rfl

theorem gives_isTrue (s : String) :
    Gives around "isTrue" [.text s] (.ok (.bool (AnnotationValue.isTrue s))) :=
  gives_onText (pattern_mem_entries (by simp : 7 < patternEntries.length)) rfl rfl s

theorem gives_clipTimeout (s : String) :
    Gives around "clipHAProxyTimeoutValue" [.text s] (.ok (.text (AnnotationValue.clipTimeout s))) :=
  gives_onText (sanitizer_mem_entries (by decide : 0 < annotationEntries.length)) rfl rfl s

theorem gives_parseAddressList (s : String) :
    Gives around "parseIPList" [.text s] (.ok (.text (AnnotationValue.parseAddressList s))) :=
  gives_onText (sanitizer_mem_entries (by decide : 1 < annotationEntries.length)) rfl rfl s

theorem gives_rewriteTarget (s : String) :
    Gives around "processRewriteTarget" [.text s] (.ok (.text (AnnotationValue.rewriteTarget s))) :=
  gives_onText (sanitizer_mem_entries (by decide : 3 < annotationEntries.length)) rfl rfl s

/-- What templates get for an answer of `isInteger`. -/
def integerAnswer : Except Decimal.Integer.Fault Bool → Except RunFault Argument
  | .ok b => .ok (.bool b)
  | .error (.tooLong n) => .error (.numeral n)
  | .error .malformed => .error .argument

theorem gives_isInteger (s : String) :
    Gives around "isInteger" [.text s] (integerAnswer (AnnotationValue.isInteger s)) := by
  have harity : Arity.ofSignature [required "s"] = .ok ⟨1, some 1⟩ := rfl
  refine gives_of_mem (e := patternEntries[1]) (pattern_mem_entries _) harity rfl fun w => ?_
  show (match AnnotationValue.isInteger s with
    | .ok b => pure (.bool b)
    | .error (.tooLong n) => throw (.numeral n)
    | .error .malformed => throw .argument : Run Argument) w = _
  rcases AnnotationValue.isInteger s with (_ | n) | b <;> rfl

/-- What templates get for an answer of `indent`. -/
def indentAnswer : Except AnnotationValue.IndentFault String → Except RunFault Argument
  | .ok s => .ok (.text s)
  | .error f => .error (.indentation f)

theorem gives_indent (s : String) (n : Int) :
    Gives around "indent" [.text s, .data (.int n)]
      (indentAnswer (AnnotationValue.indent s n)) := by
  have harity : Arity.ofSignature [required "text", required "spaces"] = .ok ⟨2, some 2⟩ := rfl
  refine gives_of_mem (e := annotationEntries[2]) (sanitizer_mem_entries _) harity rfl fun w => ?_
  show (match AnnotationValue.indent s n with
    | .ok indented => pure (.text indented)
    | .error f => throw (.indentation f) : Run Argument) w = _
  cases AnnotationValue.indent s n <;> rfl

/-! ## Answers and faults -/

theorem answers_isInteger_iff (s : String) :
    (Answers around "isInteger" [.text s] ↔ ¬ IsOverlong s.toList) ∧
      ((∃ digits, Gives around "isInteger" [.text s] (.error (.numeral digits))) ↔
        IsOverlong s.toList) := by
  have hgives : Gives around "isInteger" [.text s] _ := gives_isInteger s
  rcases AnnotationValue.isInteger_eq s with ⟨hlong, h⟩ | ⟨hshort, b, h⟩
  · rw [h] at hgives
    exact ⟨iff_of_false hgives.not_answers (not_not_intro hlong), iff_of_true ⟨_, hgives⟩ hlong⟩
  · rw [h] at hgives
    exact ⟨iff_of_true ⟨_, hgives⟩ hshort,
      iff_of_false (fun ⟨_, hfault⟩ => hfault.not_answers ⟨_, hgives⟩) hshort⟩

theorem answers_indent_iff (s : String) (n : Int) :
    (Answers around "indent" [.text s, .data (.int n)] ↔
        s = "" ∨ n ≤ AnnotationValue.maxBlanks) ∧
      (Gives around "indent" [.text s, .data (.int n)] (.error (.indentation .tooWide)) ↔
        s ≠ "" ∧ AnnotationValue.maxBlanks < n) := by
  have hgives : Gives around "indent" [.text s, .data (.int n)] _ := gives_indent s n
  rcases AnnotationValue.indent_eq s n with ⟨hwide, h⟩ | ⟨hfits, h⟩
  · rw [h] at hgives
    refine ⟨iff_of_false hgives.not_answers ?_, iff_of_true hgives hwide⟩
    rintro (hs | hn)
    · exact hwide.1 hs
    · omega
  · rw [h] at hgives
    refine ⟨iff_of_true ⟨_, hgives⟩ hfits, iff_of_false (fun hfault => ?_) ?_⟩
    · exact hfault.not_answers ⟨_, hgives⟩
    · rintro ⟨hs, hn⟩
      rcases hfits with h | h
      · exact hs h
      · omega

end

/-- **When the helpers for annotations have an answer.** Whether a text is true,
what timeouts are clipped to, lists of addresses and rewrite targets: for every
text. Whether it is an integer: for every text but a numeral of more than 4300
digits. An indented text: unless a text that is not empty is to be indented by
more blanks than a text can have. How much memory there is for so many blanks is
not in the model: it has an answer where a machine runs out of it. -/
theorem sanitizers_answer_iff (around : Surroundings) (s : String) (n : Int) :
    Answers around "isTrue" [.text s] ∧
      Answers around "clipHAProxyTimeoutValue" [.text s] ∧
      Answers around "parseIPList" [.text s] ∧
      Answers around "processRewriteTarget" [.text s] ∧
      ((Answers around "isInteger" [.text s] ↔ ¬ IsOverlong s.toList) ∧
        ((∃ digits, Gives around "isInteger" [.text s] (.error (.numeral digits))) ↔
          IsOverlong s.toList)) ∧
      ((Answers around "indent" [.text s, .data (.int n)] ↔
          s = "" ∨ n ≤ AnnotationValue.maxBlanks) ∧
        (Gives around "indent" [.text s, .data (.int n)] (.error (.indentation .tooWide)) ↔
          s ≠ "" ∧ AnnotationValue.maxBlanks < n)) :=
  ⟨⟨_, gives_isTrue s⟩, ⟨_, gives_clipTimeout s⟩, ⟨_, gives_parseAddressList s⟩,
    ⟨_, gives_rewriteTarget s⟩, answers_isInteger_iff s, answers_indent_iff s n⟩

end

theorem isOverlong_replicate {n : Nat} (h : Decimal.maxDigits < n) :
    IsOverlong (List.replicate n '1') := by
  refine ⟨[], _, rfl, List.mem_cons_self, ⟨?_, ?_⟩, by rwa [List.length_replicate]⟩
  · rw [Ne, List.replicate_eq_nil_iff]
    omega
  · intro c hc
    rw [List.eq_of_mem_replicate hc]
    rfl

/-- Of 4301 ones it is not told that they are no integer of 64 bits. -/
theorem not_answers_of_overlong :
    ¬ Answers {} "isInteger" [.text (String.ofList (List.replicate 4301 '1'))] := by
  intro h
  have hshort := (answers_isInteger_iff _).1.1 h
  rw [String.toList_ofList] at hshort
  exact hshort (isOverlong_replicate (by decide))

end Helper

end ProxyMaps
