/-
What is looked at in a document are nodes of it (`visit_of_mem_visits`). Merges
give mappings other pairs and make texts of the keys of values (`Becomes`), and
nothing else changes a document while it is read.
-/
import ProxyMaps.Yaml.Visit

namespace ProxyMaps.Yaml

theorem Node.isSome_pairs?_iff {n : Node} :
    n.pairs?.isSome = true ↔ ∃ pairs, n.body = .mapping pairs := by
  unfold pairs?
  cases n.body <;> simp

/-- What merges may make of a node. -/
structure Node.Becomes (n n' : Node) : Prop where
  tag : n'.tag = n.tag ∨ n.tag = .value ∧ n'.tag = .text
  body : n'.body = n.body ∨ n.pairs?.isSome = true ∧ n'.pairs?.isSome = true

theorem Node.Becomes.refl (n : Node) : n.Becomes n := ⟨.inl rfl, .inl rfl⟩

theorem Node.pairs?_congr {n n' : Node} (h : n'.body = n.body) : n'.pairs? = n.pairs? := by
  rw [pairs?, h, pairs?]

theorem Node.Becomes.trans {n n' n'' : Node} (h : n.Becomes n') (h' : n'.Becomes n'') :
    n.Becomes n'' where
  tag := by
    rcases h'.tag with h' | ⟨h', htext⟩
    · rw [h']
      exact h.tag
    · rcases h.tag with h | ⟨-, h⟩
      · exact .inr ⟨h ▸ h', htext⟩
      · rw [h] at h'
        cases h'
  body := by
    rcases h'.body with h' | ⟨h', hpairs⟩
    · rw [h', pairs?_congr h']
      exact h.body
    · rcases h.body with h | ⟨h, -⟩
      · exact .inr ⟨pairs?_congr h ▸ h', hpairs⟩
      · exact .inr ⟨h, hpairs⟩

theorem Node.Becomes.body_eq_scalar {n n' : Node} {text : String} (h : n.Becomes n')
    (hbody : n'.body = .scalar text) : n.body = .scalar text := by
  rcases h.body with h | ⟨-, h⟩
  · rw [← h, hbody]
  · obtain ⟨pairs, hpairs⟩ := isSome_pairs?_iff.1 h
    rw [hbody] at hpairs
    cases hpairs

theorem Node.Becomes.exists_body_eq_mapping {n n' : Node} {pairs : List (Nat × Nat)}
    (h : n.Becomes n') (hbody : n'.body = .mapping pairs) : ∃ pairs, n.body = .mapping pairs := by
  rcases h.body with h | ⟨h, -⟩
  · exact ⟨pairs, h ▸ hbody⟩
  · exact isSome_pairs?_iff.1 h

namespace Document

/-- What merges may make of a document. -/
def Becomes (d d' : Document) : Prop := ∀ i, (d.node i).Becomes (d'.node i)

section Becomes

variable {d d' d'' : Document}

theorem Becomes.refl (d : Document) : d.Becomes d := fun i => .refl (d.node i)

theorem Becomes.trans (h : d.Becomes d') (h' : d'.Becomes d'') : d.Becomes d'' :=
  fun i => (h i).trans (h' i)

theorem node_modify (d : Document) (i j : Nat) (change : Node → Node) :
    (d.modify i change).node j =
      if i = j ∧ j < d.nodes.size then change (d.node j) else d.node j := by
  simp only [node, modify, Array.getD_eq_getD_getElem?, Array.getElem?_modify]
  by_cases hj : j < d.nodes.size
  · by_cases hi : i = j <;> simp [hi, hj]
  · simp [hj]

theorem becomes_modify {i : Nat} {change : Node → Node}
    (h : (d.node i).Becomes (change (d.node i))) : d.Becomes (d.modify i change) := by
  intro j
  rw [node_modify]
  split
  next hj => exact hj.1 ▸ h
  next => exact .refl _

theorem becomes_setPairs {i : Nat} (h : (d.node i).pairs?.isSome = true)
    (pairs : List (Nat × Nat)) :
    d.Becomes (d.setPairs i pairs) :=
  becomes_modify ⟨.inl rfl, .inr ⟨h, rfl⟩⟩

theorem becomes_nameKeys (d : Document) (pairs : List (Nat × Nat)) :
    d.Becomes (d.nameKeys pairs) := by
  induction pairs generalizing d with
  | nil => exact .refl d
  | cons p pairs ih =>
    refine .trans (becomes_modify ?_) (ih _)
    split
    next hvalue => exact ⟨.inr ⟨hvalue, rfl⟩, .inl rfl⟩
    next => exact .refl _

theorem Becomes.isSome_pairs? (h : d.Becomes d') {i : Nat} (hi : (d.node i).pairs?.isSome = true) :
    (d'.node i).pairs?.isSome = true := by
  rcases (h i).body with hbody | ⟨-, hpairs⟩
  · rwa [Node.pairs?_congr hbody]
  · exact hpairs

theorem becomes_findPairs? {merge? : Nat → Document → Option Document}
    (hmerge : ∀ i d d', merge? i d = some d' → d.Becomes d') {is : List Nat}
    {found found' : List (List (Nat × Nat)) × Document}
    (h : is.foldlM (findPairs? merge?) found = some found') : found.2.Becomes found'.2 := by
  induction is generalizing found with
  | nil =>
    cases h
    exact .refl _
  | cons i is ih =>
    rw [List.foldlM_cons, Option.bind_eq_bind, Option.bind_eq_some_iff] at h
    obtain ⟨next, hnext, h⟩ := h
    simp only [findPairs?, Option.bind_eq_bind, Option.bind_eq_some_iff] at hnext
    obtain ⟨d, hd, _, -, hnext⟩ := hnext
    cases hnext
    exact (hmerge i _ d hd).trans (ih h)

theorem becomes_merge? {fuel i : Nat} {taken : List (Nat × Nat)} {d d' : Document}
    (h : merge? fuel taken i d = some d') : d.Becomes d' := by
  induction fuel generalizing i taken d d' with
  | zero => cases h
  | succ fuel ih =>
    simp only [merge?, Option.bind_eq_bind, Option.bind_eq_some_iff] at h
    obtain ⟨pairs, hpairs, h⟩ := h
    have hsome : (d.node i).pairs?.isSome = true := by rw [hpairs]; rfl
    split at h
    next =>
      cases h
      have hnames := becomes_nameKeys d pairs
      exact hnames.trans (becomes_setPairs (hnames.isSome_pairs? hsome) _)
    next p _ =>
      simp only [Option.bind_eq_some_iff] at h
      obtain ⟨sources, -, ⟨found, e⟩, hfound, h⟩ := h
      have hsources := becomes_findPairs? (fun i d d' => ih) hfound
      exact (becomes_setPairs hsome _).trans (hsources.trans (ih h))

theorem becomes_mergeInto? {d d' : Document} {i : Nat} (h : d.mergeInto? i = some d') :
    d.Becomes d' :=
  becomes_merge? h

end Becomes

end Document

/-! ## Visits -/

/-- A visit of a node of a document, which may have been changed by merges before. -/
def Visit.Of (d : Document) : Visit → Prop
  | scalar tag spelling =>
    ∃ d' i, d.Becomes d' ∧ tag = (d'.node i).tag ∧ spelling = d'.spelling i
  | misplaced => True

namespace Reader

/-- A computation yields results of some kind, and changes a document only by merges. -/
def Yields {α : Type} (d : Document) (m : StateM Reader α) (P : α → Prop) : Prop :=
  ∀ r, d.Becomes r.document → P (m.run r).1 ∧ d.Becomes (m.run r).2.document

/-- A computation yields visits of a document. -/
def Looks (d : Document) (m : StateM Reader (List Visit)) : Prop :=
  Yields d m fun vs => ∀ v ∈ vs, v.Of d

section Yields

variable {α β : Type} {d : Document} {m : StateM Reader α} {g : α → StateM Reader β}
  {P : α → Prop} {Q : β → Prop}

theorem Yields.pure {a : α} (h : P a) : Yields d (pure a) P := fun _ hr => ⟨h, hr⟩

theorem Yields.bind (hm : Yields d m P) (hg : ∀ a, P a → Yields d (g a) Q) :
    Yields d (m >>= g) Q := by
  intro r hr
  obtain ⟨ha, hr'⟩ := hm r hr
  exact hg _ ha _ hr'

theorem yields_get : Yields d (get : StateM Reader Reader) fun r => d.Becomes r.document :=
  fun _ hr => ⟨hr, hr⟩

theorem yields_modify {f : Reader → Reader}
    (h : ∀ r, d.Becomes r.document → d.Becomes (f r).document) :
    Yields d (modify f : StateM Reader PUnit) fun _ => True :=
  fun r hr => ⟨trivial, h r hr⟩

theorem Yields.mapM {g : α → StateM Reader β} (h : ∀ a, Yields d (g a) Q) (as : List α) :
    Yields d (as.mapM g) fun bs => ∀ b ∈ bs, Q b := by
  induction as with
  | nil => exact .pure (by simp)
  | cons a as ih =>
    rw [List.mapM_cons]
    exact (h a).bind fun b hb => ih.bind fun bs hbs => .pure (List.forall_mem_cons.2 ⟨hb, hbs⟩)

end Yields

section Looks

variable {d : Document}

theorem looks_misplaced : Looks d (pure [.misplaced]) := .pure (by simp [Visit.Of])

theorem looks_flatten {α : Type} {g : α → StateM Reader (List Visit)} (h : ∀ a, Looks d (g a))
    (as : List α) : Looks d (do return (← as.mapM g).flatten) :=
  (Yields.mapM h as).bind fun _ hvs => .pure fun v hv => by
    obtain ⟨vs, hmem, hv⟩ := List.mem_flatten.1 hv
    exact hvs vs hmem v hv

theorem looks_append {m m' : StateM Reader (List Visit)} (h : Looks d m) (h' : Looks d m') :
    Looks d (do return (← m) ++ (← m')) :=
  h.bind fun _ hvs => h'.bind fun _ hvs' => .pure (List.forall_mem_append.2 ⟨hvs, hvs'⟩)

theorem looks_look (i : Nat) : Looks d (look i) := by
  intro r hr
  simp only [StateT.run, look]
  split
  next => exact ⟨by simp, hr⟩
  split
  next => exact ⟨by simp, hr⟩
  next => exact ⟨by simpa using ⟨_, i, hr, rfl, rfl⟩, hr⟩

theorem looks_lookPair (p : Nat × Nat) : Looks d (lookPair p) := by
  refine (looks_look p.1).bind fun key hkey => yields_get.bind fun r _ =>
    (looks_look p.2).bind fun value hvalue => .pure ?_
  refine List.forall_mem_append.2 ⟨List.forall_mem_append.2 ⟨hkey, ?_⟩, hvalue⟩
  split <;> simp [Visit.Of]

theorem looks_lookItem (i : Nat) : Looks d (lookItem i) := by
  refine yields_get.bind fun r _ => ?_
  split
  next p _ => exact looks_append (looks_look p.1) (looks_look p.2)
  next => exact looks_misplaced

theorem looks_lookInto (i : Nat) : Looks d (lookInto i) := by
  refine yields_get.bind fun r hr => ?_
  dsimp only
  split
  case h_1 items _ _ => exact looks_flatten looks_look items
  case h_6 => exact looks_misplaced
  -- both kinds of lists of pairs, and then mappings and sets
  case h_2 items _ _ | h_3 items _ _ => exact looks_flatten looks_lookItem items
  all_goals
    split
    next => exact looks_misplaced
    next d' hmerge =>
      have hd' := hr.trans (Document.becomes_mergeInto? hmerge)
      exact Yields.bind (yields_modify fun _ _ => hd') fun _ _ => looks_flatten looks_lookPair _

theorem looks_lookOn (fuel : Nat) : Looks d (lookOn fuel) := by
  induction fuel with
  | zero => exact .pure (by simp)
  | succ fuel ih =>
    refine yields_get.bind fun r _ => ?_
    split
    next => exact .pure (by simp)
    next i rest _ =>
      refine Yields.bind (yields_modify ?_) fun _ _ => looks_append (looks_lookInto i) ih
      exact fun _ hr => hr

end Looks

end Reader

/-- What is looked at in a document are nodes of it. -/
theorem visit_of_mem_visits {d : Document} {v : Visit} (h : v ∈ d.visits) : v.Of d :=
  (Reader.looks_append (Reader.looks_look d.root) (Reader.looks_lookOn d.nodes.size)
    { document := d } (.refl d)).1 v h

end ProxyMaps.Yaml
