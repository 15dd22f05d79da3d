import HttpSuite.Proofs.FileTree
import HttpSuite.Proofs.Path.Extension
import HttpSuite.Proofs.Run

/-!
# A run and its source

Without a destination of its own a run writes beside its source: to the path with another extension,
by way of a hidden file. The hidden file is never the source. The destination is the source if this
has the extension already, and then a run that succeeds leaves the generated tests in its place.

* `Host.run_keeps_source`: the source after a run.
* `Host.run_overwrites_source`: a source that is not kept.
-/

namespace HttpSuite.Host

open FileSystem (View)

variable {φ π : Type} [FileSystem φ] {v : View φ π} {c : CommandLine} {w w' : World φ} {p : π}

theorem destination_of_output (h : c.output = none) {path : String}
    (hd : c.destination = .file path) : path = Path.withExtension c.input "rs" := by
  rw [CommandLine.destination, h] at hd
  exact (Destination.file.inj hd).symm

/-- The hidden file that is written first is not the source. -/
theorem place?_temporary_ne (hv : v.Lawful) (hp : v.place? w.files c.input = some p) :
    v.place? w.files (Path.temporary (Path.withExtension c.input "rs")) ≠ some p := by
  intro htemporary
  obtain ⟨parts, hparts, hname⟩ := hv.name_of_place? hp
  obtain ⟨hidden, hhidden, hname'⟩ := hv.name_of_place? htemporary
  exact Path.name_temporary_withExtension_ne hparts (by decide) (by decide) hhidden
    (hname'.trans hname.symm)

/-- The destination is the source only if this has its extension. -/
theorem extension?_of_place? (hv : v.Lawful) (hp : v.place? w.files c.input = some p)
    (hd : v.place? w.files (Path.withExtension c.input "rs") = some p) :
    Path.extension? c.input = some "rs" := by
  obtain ⟨parts, hparts, hname⟩ := hv.name_of_place? hp
  obtain ⟨parts', hparts', hname'⟩ := hv.name_of_place? hd
  exact Path.extension?_of_name_withExtension hparts (by decide) (by decide) (by decide) hparts'
    (hname'.trans hname.symm)

/-- **A run keeps its source.** However a run without a destination of its own ends, its source is
where it was. It has the content that it had, unless it has the extension of the generated tests: then
a run that succeeds, and was to do more than to check the source or to print its tree, may leave the
tests in its place. -/
theorem run_keeps_source (hv : v.Lawful) {args : List String}
    (hc : CommandLine.parse args = .ok c) (ho : c.output = none)
    (hp : v.place? w.files c.input = some p) {content : ByteArray}
    (hfile : v.node? w.files p = some (.file content)) {code : Nat}
    (hr : (run args : StateM (World φ) Nat).run w = (code, w')) :
    v.place? w'.files c.input = some p ∧
      (v.node? w'.files p = some (.file content) ∨
        code = 0 ∧ c.check = false ∧ c.emitAst = false ∧ Path.extension? c.input = some "rs" ∧
          ∃ source settings suite, FileSystem.readText? w.files c.input = some source ∧
            c.settings w.files = .ok settings ∧ (Suite.parse source).result = .ok suite ∧
            suite.validate = .ok () ∧
            v.node? w'.files p = some (.file (suite.generate settings c.input).toUTF8)) := by
  obtain ⟨r, w₁, hcompiled, hfiles, hcode⟩ := compiled_run hc hr
  rw [hfiles]
  cases hcompiled with
  | refused hf | printed _ hf | checked _ hf =>
    rw [hf]
    exact ⟨hp, .inl hfile⟩
  | undelivered hd hreplace _ =>
    rw [destination_of_output ho hd] at hreplace
    obtain ⟨hframe, -⟩ := View.replace_failed hv hreplace
    exact ⟨(hframe.place?_eq _).trans hp,
      .inl ((hframe.node?_eq p (place?_temporary_ne hv hp)).trans hfile)⟩
  | @delivered _ source path settings suite hread hsettings hparse hvalid hast hcheck hd hreplace =>
    rw [destination_of_output ho hd] at hreplace
    obtain ⟨a, b, ha, hb, hframe, hnew, -⟩ := View.replace_done hv hreplace
    refine ⟨(hframe.place?_eq _).trans hp, ?_⟩
    by_cases hpb : p = b
    -- the destination is the source itself; the new content stands there, and the path ends with
    -- `.rs`
    · rw [← hpb] at hb hnew
      exact .inr ⟨hcode rfl, hcheck, hast, extension?_of_place? hv hp hb, source, settings, suite,
        hread, hsettings, hparse, hvalid, hnew⟩
    -- the destination is another place, and so is that of the temporary file
    · refine .inl ((hframe.node?_eq p ?_).trans hfile)
      rintro (hpa | hpb')
      · exact place?_temporary_ne hv hp (hpa ▸ ha)
      · exact hpb hpb'

/-- A source that stands beside the tests that are generated from it. -/
theorem run_keeps_source_beside :
    ∃ w w' : World FileTree,
      w.files.nodes = [(["a.test"], .file
        "test t \x7b GET \"/\"; expect status = 200; expect body contains \"a\"; \x7d".toUTF8)] ∧
      (run ["a.test"] : StateM (World FileTree) Nat).run w = (0, w') ∧
      FileTree.view.node? w'.files ["a.test"] = FileTree.view.node? w.files ["a.test"] := by
  have hc : CommandLine.parse ["a.test"] = .ok { input := "a.test" } := by cbv
  obtain ⟨w, content, hw, hp, hfile, hcode⟩ : ∃ (w : World FileTree) (content : ByteArray),
      w.files.nodes = [(["a.test"], .file
        "test t \x7b GET \"/\"; expect status = 200; expect body contains \"a\"; \x7d".toUTF8)] ∧
      FileTree.view.place? w.files "a.test" = some ["a.test"] ∧
      FileTree.view.node? w.files ["a.test"] = some (.file content) ∧
      ((run ["a.test"] : StateM (World FileTree) Nat).run w).1 = 0 :=
    ⟨{ files := { nodes := [(["a.test"], .file
        "test t \x7b GET \"/\"; expect status = 200; expect body contains \"a\"; \x7d".toUTF8)] } },
      _, rfl, by decide +kernel, rfl, by decide +kernel⟩
  have hr : (run ["a.test"] : StateM (World FileTree) Nat).run w = (0, _) := Prod.ext hcode rfl
  obtain ⟨-, hkept | ⟨-, -, -, hrs, -⟩⟩ := run_keeps_source FileTree.lawful hc rfl hp hfile hr
  · exact ⟨w, _, hw, hr, hkept.trans hfile.symm⟩
  · exact absurd hrs (by decide +kernel)

/-- **A source with the extension of the tests** is replaced by them. -/
theorem run_overwrites_source :
    ∃ w w' : World FileTree,
      w.files.nodes = [(["a.rs"], .file
        "test t \x7b GET \"/\"; expect status = 200; expect body contains \"a\"; \x7d".toUTF8)] ∧
      CommandLine.parse ["a.rs"] = .ok { input := "a.rs" } ∧
      (run ["a.rs"] : StateM (World FileTree) Nat).run w = (0, w') ∧
      (FileSystem.read? w.files "a.rs").isSome ∧
      FileSystem.read? w'.files "a.rs" ≠ FileSystem.read? w.files "a.rs" := by
  refine ⟨{ files := { nodes := [(["a.rs"], .file
        "test t \x7b GET \"/\"; expect status = 200; expect body contains \"a\"; \x7d".toUTF8)] } },
      _, rfl, by cbv, Prod.ext (by decide +kernel) rfl, by decide +kernel, fun h => ?_⟩
  -- they differ at the first byte
  have hfirst := congrArg (fun content => content.bind fun b : ByteArray => b.data.toList.head?) h
  exact absurd hfirst (by decide +kernel)

end HttpSuite.Host
