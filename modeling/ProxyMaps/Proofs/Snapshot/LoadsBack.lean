/-
Snapshots that are written as JSON and loaded again. A value of nulls, truth
values, integers of 64 bits, texts, lists and mappings with texts for keys is
the value of the document that says it (`Portable.exists_document`). As the
document is read back from its text, the text is loaded as the value itself.
-/
import Mathlib.Data.List.Induction
import ProxyMaps.Proofs.Json.ReadBack
import ProxyMaps.Snapshot.OfText

namespace ProxyMaps

namespace Value

/-! ## Values as JSON documents -/

mutual

/-- The JSON document that says a value, if one does. -/
def toJson? : Value → Option Json
  | null => some .null
  | bool b => some (.bool b)
  | int n => some (.int n)
  | float x => some (.real x)
  | text s => some (.text s)
  | list items => (toJsonItems? items).map .list
  | mapping entries => (toJsonFields? entries).map .object
  | _ => none

/-- `toJson?` on every item. -/
def toJsonItems? : List Value → Option (List Json)
  | [] => some []
  | v :: rest => do return (← toJson? v) :: (← toJsonItems? rest)

/-- `toJson?` on every entry; the keys have to be texts. -/
def toJsonFields? : List (Value × Value) → Option (List (String × Json))
  | [] => some []
  | (text name, v) :: rest => do return (name, ← toJson? v) :: (← toJsonFields? rest)
  | _ => none

end

/-- The entries of a mapping whose keys are texts. -/
def named (fields : List (String × Value)) : List (Value × Value) :=
  fields.map fun f => (text f.1, f.2)

/-- Values nested at most `depth` deep, of what JSON has but without numbers other than integers of
64 bits; the keys of a mapping do not repeat. -/
inductive Portable : Nat → Value → Prop where
  | null {depth : Nat} : Portable depth .null
  | bool {depth : Nat} (b : Bool) : Portable depth (.bool b)
  | int {depth : Nat} {n : Int} (h : Json.fits64 n = true) : Portable depth (.int n)
  | text {depth : Nat} (s : String) : Portable depth (.text s)
  | list {depth : Nat} {items : List Value} (h : ∀ v ∈ items, Portable depth v) :
      Portable (depth + 1) (.list items)
  | mapping {depth : Nat} {fields : List (String × Value)} (hnames : (fields.map Prod.fst).Nodup)
      (h : ∀ f ∈ fields, Portable depth f.2) : Portable (depth + 1) (.mapping (named fields))

theorem put_of_new {k : Value} {entries : List (Value × Value)}
    (h : ∀ e ∈ entries, e.1.sameKey k = false) (v : Value) :
    put k v entries = entries ++ [(k, v)] := by
  induction entries with
  | nil => rfl
  | cons e entries ih =>
    have he : ¬ e.1.sameKey k = true := by simp [h e List.mem_cons_self]
    rw [put, if_neg he, ih fun e' he' => h e' (List.mem_cons_of_mem e he'), List.cons_append]

/-- Entries under different names make a mapping as they stand. -/
theorem ofEntries_named {fields : List (String × Value)} (h : (fields.map Prod.fst).Nodup) :
    ofEntries (named fields) = mapping (named fields) := by
  refine congrArg mapping ?_
  -- the entry put last has a new name, so it goes behind all the others
  induction fields using List.reverseRecOn with
  | nil => rfl
  | append_singleton fields f ih =>
    rw [List.map_append, List.nodup_append] at h
    obtain ⟨hfields, -, hnew⟩ := h
    have hkeys : ∀ e ∈ named fields, e.1.sameKey (text f.1) = false := by
      intro e he
      obtain ⟨g, hg, rfl⟩ := List.mem_map.1 he
      have hne : g.1 ≠ f.1 := hnew g.1 (List.mem_map_of_mem hg) f.1 List.mem_cons_self
      simpa [sameKey] using hne
    have hnamed : named (fields ++ [f]) = named fields ++ [(text f.1, f.2)] := by
      simp [named]
    rw [hnamed, List.foldl_append, ih hfields]
    exact put_of_new hkeys f.2

/-- A document that says a value and that is the value again when it is loaded. -/
def Says (depth : Nat) (v : Value) (j : Json) : Prop :=
  v.toJson? = some j ∧ Json.Exact depth j ∧ ofJson j = v

section

variable {depth : Nat}

theorem exists_items {items : List Value} (h : ∀ v ∈ items, ∃ j, Says depth v j) :
    ∃ js, toJsonItems? items = some js ∧ (∀ j ∈ js, Json.Exact depth j) ∧
      ofJsonItems js = items := by
  induction items with
  | nil => exact ⟨[], rfl, by simp, rfl⟩
  | cons v items ih =>
    obtain ⟨j, hj, hexact, hof⟩ := h v List.mem_cons_self
    obtain ⟨js, hjs, hall, hofs⟩ := ih fun w hw => h w (List.mem_cons_of_mem v hw)
    refine ⟨j :: js, ?_, List.forall_mem_cons.2 ⟨hexact, hall⟩, ?_⟩
    · rw [toJsonItems?, hj, hjs]
      rfl
    · rw [ofJsonItems, hof, hofs]

theorem exists_fields {fields : List (String × Value)}
    (h : ∀ f ∈ fields, ∃ j, Says depth f.2 j) :
    ∃ fs, toJsonFields? (named fields) = some fs ∧ (∀ f ∈ fs, Json.Exact depth f.2) ∧
      ofJsonFields fs = named fields := by
  induction fields with
  | nil => exact ⟨[], rfl, by simp, rfl⟩
  | cons f fields ih =>
    obtain ⟨name, v⟩ := f
    obtain ⟨j, hj, hexact, hof⟩ := h (name, v) List.mem_cons_self
    obtain ⟨fs, hfs, hall, hofs⟩ := ih fun g hg => h g (List.mem_cons_of_mem _ hg)
    refine ⟨(name, j) :: fs, ?_, List.forall_mem_cons.2 ⟨hexact, hall⟩, ?_⟩
    · change toJsonFields? ((text name, v) :: named fields) = _
      rw [toJsonFields?, hj, hfs]
      rfl
    · rw [ofJsonFields, hof, hofs]
      rfl

/-- Portable values have documents. -/
theorem Portable.exists_document {v : Value} (h : Portable depth v) : ∃ j, Says depth v j := by
  induction h with
  | null => exact ⟨.null, rfl, .null, rfl⟩
  | bool b => exact ⟨.bool b, rfl, .bool b, rfl⟩
  | @int depth n h => exact ⟨.int n, rfl, .int h, rfl⟩
  | text s => exact ⟨.text s, rfl, .text s, rfl⟩
  | list _ ih =>
    obtain ⟨js, hjs, hexact, hof⟩ := exists_items ih
    refine ⟨.list js, ?_, .list hexact, ?_⟩
    · rw [toJson?, hjs]
      rfl
    · rw [ofJson, hof]
  | mapping hnames _ ih =>
    obtain ⟨fs, hfs, hexact, hof⟩ := exists_fields ih
    refine ⟨.object fs, ?_, .object hexact, ?_⟩
    · rw [toJson?, hfs]
      rfl
    · rw [ofJson, hof, ofEntries_named hnames]

end

end Value

namespace Snapshot

theorem looksLikeJson_of_head? {text : String} (h : text.toList.head? = some '\x7b') :
    looksLikeJson text = true := by
  obtain ⟨rest, hrest⟩ := List.head?_eq_some_iff.1 h
  simp [looksLikeJson, Text.trimLeft, hrest, Text.isBlank]

/-- **JSON snapshots load back.** A mapping with texts for keys, made of nulls, truth
values, integers of 64 bits, texts, lists and such mappings, and nested no deeper
than JSON is written, has a JSON text. Whatever the settings are and whatever the
caller says in place of the document, loading the text gives what the mapping
itself gives: the same snapshot or the same fault. -/
theorem written_loads_back {entries : Fields}
    (h : (Value.mapping entries).Portable Json.Writer.maxDepth) :
    ∃ j text, (Value.mapping entries).toJson? = some j ∧ Json.write .compact j = .ok text ∧
      ∀ (settings : Settings) (override : Override),
        ofText settings override text = ofValue settings override (.mapping entries) := by
  obtain ⟨j, hj, hexact, hof⟩ := h.exists_document
  obtain ⟨text, hwrite, hread⟩ := hexact.read?_write
  refine ⟨j, text, hj, hwrite, fun settings override => ?_⟩
  obtain ⟨fs, -, rfl⟩ : ∃ fs, Value.toJsonFields? entries = some fs ∧ Json.object fs = j := by
    rw [Value.toJson?] at hj
    exact Option.map_eq_some_iff.1 hj
  have hlooks := looksLikeJson_of_head? (Json.head?_of_write_object hwrite)
  have hdocument : documentOf text = .ok (.mapping entries) := by
    rw [documentOf, if_pos hlooks, hread]
    exact congrArg Except.ok hof
  rw [ofText, hdocument]
  rfl

theorem written_loads_back_nested :
    let entries : Fields := Value.named [
      ("workingDir", .list [.text "\"\\\x01é", .int 18446744073709551615, .bool true]),
      ("routes", .mapping (Value.named [("n:r", .mapping (Value.named [("host", .null)]))]))]
    let text := "\x7b\"workingDir\":[\"\\\"\\\\\\u0001é\",18446744073709551615,true]," ++
      "\"routes\":\x7b\"n:r\":\x7b\"host\":null\x7d\x7d\x7d"
    (Value.mapping entries).Portable Json.Writer.maxDepth ∧
      ofText {} {} text = ofValue {} {} (.mapping entries) ∧
      (ofText {} {} text).toOption.map (fun s => (s.workingDir, s.routes.keys)) =
        some ("['\"\\\\\\x01é', 18446744073709551615, True]", ["n:r"]) := by
  intro entries text
  have hhost : (Value.mapping (Value.named [("host", .null)])).Portable 252 :=
    .mapping (by decide) (List.forall_mem_singleton.2 .null)
  have hroutes : (Value.mapping (Value.named
      [("n:r", .mapping (Value.named [("host", .null)]))])).Portable 253 :=
    .mapping (by decide) (List.forall_mem_singleton.2 hhost)
  have hdir : (Value.list
      [.text "\"\\\x01é", .int 18446744073709551615, .bool true]).Portable 253 := by
    refine .list (List.forall_mem_cons.2 ⟨.text _, List.forall_mem_cons.2 ⟨.int (by decide), ?_⟩⟩)
    exact List.forall_mem_singleton.2 (.bool true)
  have hportable : (Value.mapping entries).Portable Json.Writer.maxDepth :=
    .mapping (by decide) (List.forall_mem_cons.2 ⟨hdir, List.forall_mem_singleton.2 hroutes⟩)
  obtain ⟨j, written, hj, hwrite, hload⟩ := written_loads_back hportable
  have htext : written = text := by
    have hsaid : ((Value.mapping entries).toJson?.bind fun j => (Json.write .compact j).toOption) =
        some text := by decide +kernel
    rw [hj, Option.bind_some, hwrite] at hsaid
    exact Option.some.inj hsaid
  exact ⟨hportable, htext ▸ hload {} {}, by decide +kernel⟩

end Snapshot

end ProxyMaps
