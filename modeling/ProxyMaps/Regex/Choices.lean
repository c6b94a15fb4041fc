/-
Ordered choices that are worked out only as far as they are looked at.

`toList` is the view: it lists all choices in order, and every operation is
described by what it does to that list.
-/

namespace ProxyMaps.Regex

/-- Choices in order of preference; the rest of them is worked out on demand. -/
inductive Choices (α : Type) where
  | done
  | next (a : α) (rest : Unit → Choices α)

namespace Choices

variable {α β : Type}

/-- All choices, the preferred first. -/
def toList : Choices α → List α
  | done => []
  | next a rest => a :: (rest ()).toList

/-- A single choice. -/
def one (a : α) : Choices α := next a fun _ => done

/-- The choices of the first, then those of the second. -/
def append : Choices α → (Unit → Choices α) → Choices α
  | done, ys => ys ()
  | next a rest, ys => next a fun _ => (rest ()).append ys

/-- For every choice the choices that follow from it. -/
def flatMap : Choices α → (α → Choices β) → Choices β
  | done, _ => done
  | next a rest, f => (f a).append fun _ => (rest ()).flatMap f

/-- The preferred choice. -/
def head? : Choices α → Option α
  | done => none
  | next a _ => some a

/-- The first choice that passes a test. -/
def find? (p : α → Bool) : Choices α → Option α
  | done => none
  | next a rest => if p a then some a else (rest ()).find? p

/-- The choice of an option. -/
def ofOption : Option α → Choices α
  | none => done
  | some a => one a

@[simp] theorem toList_done : (done : Choices α).toList = [] := rfl

@[simp] theorem toList_one (a : α) : (one a).toList = [a] := rfl

@[simp] theorem toList_next (a : α) (rest : Unit → Choices α) :
    (next a rest).toList = a :: (rest ()).toList := rfl

@[simp] theorem toList_append (xs : Choices α) (ys : Unit → Choices α) :
    (xs.append ys).toList = xs.toList ++ (ys ()).toList := by
  induction xs with
  | done => rfl
  | next a rest ih => simp [append, ih]

@[simp] theorem toList_flatMap (xs : Choices α) (f : α → Choices β) :
    (xs.flatMap f).toList = xs.toList.flatMap fun a => (f a).toList := by
  induction xs with
  | done => rfl
  | next a rest ih => simp [flatMap, ih]

@[simp] theorem head?_eq (xs : Choices α) : xs.head? = xs.toList.head? := by
  cases xs <;> rfl

@[simp] theorem find?_eq (p : α → Bool) (xs : Choices α) : xs.find? p = xs.toList.find? p := by
  induction xs with
  | done => rfl
  | next a rest ih => by_cases h : p a <;> simp [find?, h, ih]

@[simp] theorem toList_ofOption (o : Option α) : (ofOption o).toList = o.toList := by
  cases o <;> rfl

end Choices

end ProxyMaps.Regex
