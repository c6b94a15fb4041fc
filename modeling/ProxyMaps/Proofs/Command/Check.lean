/-
The program that reviews annotations, on a tree of files. Of a file that is
loaded it prints the review, whatever is in it (`run_check`). Once every value
that it prints has been replaced by the one that takes effect, it prints an
empty review (`check_adopted`).
-/
import ProxyMaps.Command
import ProxyMaps.Proofs.AnnotationReview
import ProxyMaps.Proofs.Command.Session

namespace ProxyMaps.Command

open AnnotationReview (Lists adopt annotations ofRoutes toJson)
open AnnotationValue (clipTimeout parseAddressList)

/-- A file of a tree is loaded as a snapshot. -/
def Loads (settings : Settings) (t : FileTree) (path : String) (s : Snapshot) : Prop :=
  (Session.loadSnapshot Host.ofFileTree settings {} path).run.run [] t = ((.ok s, []), t)

/-- How a review is laid out. -/
def CheckOptions.layout (o : CheckOptions) : Json.Writer.Layout :=
  if o.compact then .compact else .pretty

/-- What is said about a review besides printing it. -/
def noticesOf (review : AnnotationReview.Review) : List Notice :=
  if review.isEmpty then []
  else [.message .warning s!"{review.length} routes have annotations the router will change"]

section

variable {settings : Settings} {t : FileTree} {path : String} {s : Snapshot}

/-- A file that is text is loaded as the snapshot that the text describes. -/
theorem loads_of_text {text : String} (hread : t.read? path = some text.toUTF8)
    (h : Snapshot.ofText settings {} (String.ofList (Text.Line.normalize text.toList)) = .ok s) :
    Loads settings t path s := by
  have hbytes : (liftM (Host.ofFileTree.read path) : Session (StateM FileTree) _).run.run [] t =
      ((.ok (some text.toUTF8), []), t) := by
    rw [← hread]
    rfl
  have htext : String.fromUTF8? text.toUTF8 = some text := dif_pos text.isValidUTF8
  rw [Loads, Session.loadSnapshot, run_bind hbytes]
  dsimp only
  rw [htext]
  dsimp only
  rw [h]
  rfl

theorem run_check {args : List String} {o : CheckOptions} {report : String}
    (hargs : Request.of? args = some (.check o)) (h : Loads settings t o.snapshot s)
    (hreport : Json.write o.layout (toJson (ofRoutes s.routes)) = .ok report) :
    run Host.ofFileTree settings args t =
      (⟨0, report ++ "\n", noticesOf (ofRoutes s.routes)⟩, t) := by
  have hcheck : (check Host.ofFileTree settings o).run.run [] t =
      ((.ok (report ++ "\n"), noticesOf (ofRoutes s.routes)), t) := by
    rw [CheckOptions.layout] at hreport
    rw [check, run_bind h]
    dsimp only
    rw [hreport]
    unfold noticesOf
    cases (ofRoutes s.routes).isEmpty <;> rfl
  have hshown : (noticesOf (ofRoutes s.routes)).filter (isShown o.debug) =
      noticesOf (ofRoutes s.routes) := by
    unfold noticesOf
    split <;> rfl
  rw [run, hargs]
  simp only [finish, bind, StateT.bind, hcheck, hshown]
  rfl

theorem write_empty (layout : Json.Writer.Layout) :
    Json.write layout (toJson []) = .ok "\x7b\x7d" := by
  cases layout with
  | compact => rfl
  | pretty => decide +kernel

end

/-! ## A snapshot with one annotation -/

section Sample

variable (timeout : String)

/-- The text of the snapshot. -/
def sampleText : String :=
  "\x7b\"routes\": \x7b\"r\": \x7b\"annotations\": " ++
    "\x7b\"haproxy.router.openshift.io/timeout\": \"" ++ timeout ++ "\"\x7d\x7d\x7d\x7d"

/-- A tree with the snapshot in a file. -/
def sampleTree : FileTree :=
  { entries := .ofList [(["work", "s.json"], .file (sampleText timeout).toUTF8 FileTree.newMode)] }

/-- The annotation in it. -/
def sampleAnnotations : Table String (Table String String) :=
  .ofList [("r", .ofList [("haproxy.router.openshift.io/timeout", timeout)])]

theorem loads_sample (review : AnnotationReview.Review)
    (h : (Snapshot.ofText {} {} (String.ofList (Text.Line.normalize
        (sampleText timeout).toList))).toOption.map
      (fun s => (annotations s.routes, ofRoutes s.routes)) =
        some (sampleAnnotations timeout, review)) :
    ∃ s, Loads {} (sampleTree timeout) "s.json" s ∧
      annotations s.routes = sampleAnnotations timeout ∧ ofRoutes s.routes = review := by
  cases hs : Snapshot.ofText {} {} (String.ofList (Text.Line.normalize
      (sampleText timeout).toList)) with
  | error f =>
    rw [hs] at h
    cases h
  | ok s =>
    rw [hs] at h
    obtain ⟨hannotations, hreview⟩ := Prod.mk.inj (Option.some.inj h)
    exact ⟨s, loads_of_text rfl hs, hannotations, hreview⟩

end Sample

/-! ## Adopting what is printed -/

/-- **Adopting a review.** What takes effect of a timeout or an allowlist takes
effect as it is. A review lists the timeouts and the allowlists whose values
that changes, and nothing else, and once it has been adopted there is nothing to
list. The program prints the review of whatever it loads, and an empty one when
what it prints has been adopted. -/
theorem check_adopted (settings : Settings) :
    (∀ value, clipTimeout (clipTimeout value) = clipTimeout value ∧
      parseAddressList (parseAddressList value) = parseAddressList value) ∧
    (∀ (routes : Routes) (key : String) (c : AnnotationChange), Lists (ofRoutes routes) key c ↔
      ∃ r, routes.find? key = some r ∧ r.annotations.find? c.name = some c.given ∧
        c.effective ≠ c.given ∧
        (c.name ∈ AnnotationName.timeouts ∧ c.effective = clipTimeout c.given ∨
          c.name ∈ AnnotationName.allowlists ∧ c.effective = parseAddressList c.given)) ∧
    (∀ routes routes' : Routes,
      annotations routes' = adopt (ofRoutes routes) (annotations routes) →
        ofRoutes routes' = []) ∧
    ∀ (args : List String) (o : CheckOptions) (t : FileTree) (s : Snapshot),
      Request.of? args = some (.check o) → Loads settings t o.snapshot s →
        (∃ report, Json.write o.layout (toJson (ofRoutes s.routes)) = .ok report ∧
          run Host.ofFileTree settings args t =
            (⟨0, report ++ "\n", noticesOf (ofRoutes s.routes)⟩, t)) ∧
        ∀ (t' : FileTree) (s' : Snapshot), Loads settings t' o.snapshot s' →
          annotations s'.routes = adopt (ofRoutes s.routes) (annotations s.routes) →
            run Host.ofFileTree settings args t' = (⟨0, "\x7b\x7d\n", []⟩, t') := by
  refine ⟨fun value => ⟨AnnotationValue.clipTimeout_idem value,
    Allowlist.parseAddressList_idem value⟩, fun routes key c => ?_,
    fun routes routes' => AnnotationReview.ofRoutes_adopted, fun args o t s hargs h => ?_⟩
  · rw [AnnotationReview.lists_ofRoutes]
    refine exists_congr fun r => and_congr_right fun _ => ?_
    rw [AnnotationReview.mem_changes]
    exact and_congr_right fun _ => and_congr_right AnnotationReview.eq_effect_iff
  · obtain ⟨report, hreport⟩ := AnnotationReview.exists_write_toJson o.layout (ofRoutes s.routes)
    refine ⟨⟨report, hreport, run_check hargs h hreport⟩, fun t' s' h' hadopted => ?_⟩
    have hnone : ofRoutes s'.routes = [] := AnnotationReview.ofRoutes_adopted hadopted
    have hempty : Json.write o.layout (toJson (ofRoutes s'.routes)) = .ok "\x7b\x7d" :=
      hnone ▸ write_empty o.layout
    rw [run_check hargs h' hempty, hnone]
    rfl

theorem check_adopted_sample :
    run Host.ofFileTree {} ["check", "s.json", "--nopretty"] (sampleTree "99d") =
      (⟨0, "\x7b\"r\":\x7b\"haproxy.router.openshift.io/timeout\":" ++
          "\x7b\"given\":\"99d\",\"effective\":\"2147483647ms\"\x7d\x7d\x7d\n",
        [.message .warning "1 routes have annotations the router will change"]⟩,
        sampleTree "99d") ∧
    run Host.ofFileTree {} ["check", "s.json", "--nopretty"] (sampleTree "2147483647ms") =
      (⟨0, "\x7b\x7d\n", []⟩, sampleTree "2147483647ms") := by
  have hargs : Request.of? ["check", "s.json", "--nopretty"] =
      some (.check { snapshot := "s.json", compact := true }) := by decide
  obtain ⟨s, hloads, hgiven, hreview⟩ := loads_sample "99d"
    [("r", [⟨"haproxy.router.openshift.io/timeout", "99d", "2147483647ms"⟩])] (by decide +kernel)
  obtain ⟨s', hloads', hadopted, -⟩ := loads_sample "2147483647ms" [] (by decide +kernel)
  obtain ⟨-, -, -, hrun⟩ := check_adopted {}
  obtain ⟨⟨report, hreport, hfirst⟩, hsecond⟩ := hrun _ _ _ s hargs hloads
  refine ⟨?_, hsecond _ s' hloads' ?_⟩
  · rw [hreview] at hreport hfirst
    cases hreport
    exact hfirst
  · rw [hadopted, hreview, hgiven]
    decide

end ProxyMaps.Command
