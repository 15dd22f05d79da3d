import HttpSuite.Proofs.FileTree
import HttpSuite.Proofs.Run

/-!
# A run is all or nothing

A run that fails leaves the files as they were, whatever went wrong and however far it came; one
that succeeds leaves the whole output and nothing else. Files are seen through any view that is
lawful (`FileSystem.View.Lawful`), so a write may fail in the middle and leave a part of what was
written.

* `Untouched`: what a run that failed leaves.
* `Replaced`: what a run that wrote its output to a file leaves.
* `Host.run_all_or_nothing`: a run leaves one or the other.
-/

namespace HttpSuite

open FileSystem (View)

variable {φ π : Type} {v : View φ π} {c : CommandLine} {w w' : World φ}

/-- Nothing was printed, every place holds what it held except that of the temporary file, and no
temporary file is left where there was none. -/
structure Untouched (v : View φ π) (d : Destination) (w w' : World φ) : Prop where
  stdout_eq : w'.stdout = w.stdout
  place?_eq : ∀ path, v.place? w'.files path = v.place? w.files path
  node?_eq : ∀ p, (∀ path, d = .file path → v.place? w.files (Path.temporary path) ≠ some p) →
    v.node? w'.files p = v.node? w.files p
  temporary_eq_none : ∀ path p, d = .file path →
    v.place? w.files (Path.temporary path) = some p → v.node? w.files p = none →
    v.node? w'.files p = none

/-- The file at a path has exactly this text, no temporary file is beside it, and every other place
holds what it held. -/
structure Replaced (v : View φ π) (path text : String) (w w' : World φ) : Prop where
  place?_eq : ∀ path, v.place? w'.files path = v.place? w.files path
  holds : ∃ p, v.place? w'.files path = some p ∧ v.node? w'.files p = some (.file text.toUTF8)
  temporary_eq_none : ∀ p, v.place? w'.files (Path.temporary path) = some p →
    v.node? w'.files p = none
  node?_eq : ∀ p, v.place? w.files path ≠ some p →
    v.place? w.files (Path.temporary path) ≠ some p → v.node? w'.files p = v.node? w.files p

theorem Untouched.of_files_eq {d : Destination} (hf : w'.files = w.files)
    (ho : w'.stdout = w.stdout) : Untouched v d w w' := by
  refine ⟨ho, fun _ => by rw [hf], fun _ _ => by rw [hf], fun _ _ _ _ hnone => ?_⟩
  rw [hf]
  exact hnone

namespace Host

variable [FileSystem φ]

/-- A compilation that fails leaves the files as they were. -/
theorem Compiled.untouched (hv : v.Lawful) {e : RunError} (h : Compiled c w (.error e) w') :
    Untouched v c.destination w w' := by
  cases h with
  | refused hf ho => exact .of_files_eq hf ho
  | @undelivered w' path text hd hr ho =>
    obtain ⟨hframe, hnone⟩ := View.replace_failed hv hr
    refine ⟨ho, hframe.place?_eq, fun p hp => hframe.node?_eq p (hp path hd), ?_⟩
    intro path' p hd' hp
    rw [hd] at hd'
    cases hd'
    exact hnone p hp

/-- A compilation whose output is no file changes no file. -/
theorem Compiled.files_eq (h : Compiled c w (.ok ()) w')
    (hc : c.check = true ∨ c.emitAst = true ∨ c.destination = .stdout) : w'.files = w.files := by
  cases h with
  | printed _ hf => exact hf
  | checked _ hf => exact hf
  | delivered _ _ _ _ ha hk hd _ =>
    rw [ha, hk, hd] at hc
    simp at hc

/-- A compilation whose output is a file replaces it by what is generated. -/
theorem Compiled.replaced (hv : v.Lawful) (h : Compiled c w (.ok ()) w') (hk : c.check = false)
    (ha : c.emitAst = false) {path : String} (hd : c.destination = .file path) :
    ∃ source settings suite, FileSystem.readText? w.files c.input = some source ∧
      c.settings w.files = .ok settings ∧ (Suite.parse source).result = .ok suite ∧
      suite.validate = .ok () ∧ Replaced v path (suite.generate settings c.input) w w' := by
  cases h with
  | printed h _ =>
    rw [ha, hd] at h
    simp at h
  | checked h _ =>
    rw [hk] at h
    cases h
  | @delivered w' source path' settings suite hread hsettings hparse hvalid _ _ hd' hr =>
    rw [hd] at hd'
    cases hd'
    -- two places were touched: that of the temporary file and the destination
    obtain ⟨a, b, ha, hb, hframe, hnew, hgone⟩ := View.replace_done hv hr
    refine ⟨source, settings, suite, hread, hsettings, hparse, hvalid, hframe.place?_eq,
      ⟨b, (hframe.place?_eq _).trans hb, hnew⟩, fun p hp => ?_, fun p hpb hpa => ?_⟩
    · rw [hframe.place?_eq, ha] at hp
      cases hp
      exact hgone
    · refine hframe.node?_eq p ?_
      rintro (rfl | rfl)
      · exact hpa ha
      · exact hpb hb

/-- **A run is all or nothing.** If it fails, the files are as they were and nothing was printed. If
it succeeds and was only to check, to print the tree or to print the tests, no file changed. If it
succeeds otherwise, the destination holds what is generated from the source, under the settings, and
all else is as it was. -/
theorem run_all_or_nothing (hv : v.Lawful) {args : List String}
    (hc : CommandLine.parse args = .ok c) {code : Nat}
    (hr : (run args : StateM (World φ) Nat).run w = (code, w')) :
    (code ≠ 0 → Untouched v c.destination w w') ∧
    (code = 0 → c.check = true ∨ c.emitAst = true ∨ c.destination = .stdout →
      w'.files = w.files) ∧
    (code = 0 → c.check = false → c.emitAst = false → ∀ path, c.destination = .file path →
      ∃ source settings suite, FileSystem.readText? w.files c.input = some source ∧
        c.settings w.files = .ok settings ∧ (Suite.parse source).result = .ok suite ∧
        suite.validate = .ok () ∧ Replaced v path (suite.generate settings c.input) w w') := by
  have hcompiled := compiled_compile c w
  rw [run_of_parse hc] at hr
  rcases houtcome : outcome (compile c) w with ⟨r, w₁⟩
  rw [houtcome] at hcompiled hr
  -- what a run did is in `compiled_compile`; the exit code tells which of its cases it was
  cases r with
  | ok u =>
    cases u
    cases hr
    exact ⟨fun h => absurd rfl h, fun _ => hcompiled.files_eq,
      fun _ hk ha path hd => hcompiled.replaced hv hk ha hd⟩
  | error e =>
    cases hr
    obtain ⟨ho, hplace, hnode, hnone⟩ := hcompiled.untouched hv
    exact ⟨fun _ => ⟨ho, hplace, hnode, hnone⟩, fun h => absurd h (by decide),
      fun h => absurd h (by decide)⟩

/-- A run that writes the file beside its input, and one that finds a folder there after it wrote
the temporary file. -/
theorem run_all_or_nothing_beside :
    (∃ (w w' : World FileTree) (settings : Settings) (suite : Suite),
      w.files.nodes = [(["a.test"], .file
        "test t \x7b GET \"/\"; expect status = 200; expect body contains \"a\"; \x7d".toUTF8)] ∧
      (run ["a.test"] : StateM (World FileTree) Nat).run w = (0, w') ∧
      Replaced FileTree.view "a.rs" (suite.generate settings "a.test") w w') ∧
    ∃ w w' : World FileTree,
      w.files.nodes = [(["a.test"], .file
        "test t \x7b GET \"/\"; expect status = 200; expect body contains \"a\"; \x7d".toUTF8),
        (["a.rs"], .folder)] ∧
      (run ["a.test"] : StateM (World FileTree) Nat).run w = (1, w') ∧
      Untouched FileTree.view (.file "a.rs") w w' := by
  have hc : CommandLine.parse ["a.test"] = .ok { input := "a.test" } := by cbv
  have hd : CommandLine.destination { input := "a.test" } = .file "a.rs" := by decide +kernel
  constructor
  · obtain ⟨w, hw, hcode⟩ : ∃ w : World FileTree,
        w.files.nodes = [(["a.test"], .file
          "test t \x7b GET \"/\"; expect status = 200; expect body contains \"a\"; \x7d".toUTF8)] ∧
        ((run ["a.test"] : StateM (World FileTree) Nat).run w).1 = 0 :=
      ⟨{ files := { nodes := [(["a.test"], .file
          "test t \x7b GET \"/\"; expect status = 200; expect body contains \"a\"; \x7d".toUTF8)] } },
        rfl, by decide +kernel⟩
    have hr : (run ["a.test"] : StateM (World FileTree) Nat).run w = (0, _) := Prod.ext hcode rfl
    obtain ⟨-, -, hdone⟩ := run_all_or_nothing FileTree.lawful hc hr
    obtain ⟨source, settings, suite, -, -, -, -, hreplaced⟩ := hdone rfl rfl rfl "a.rs" hd
    exact ⟨w, _, settings, suite, hw, hr, hreplaced⟩
  · obtain ⟨w, hw, hcode⟩ : ∃ w : World FileTree,
        w.files.nodes = [(["a.test"], .file
          "test t \x7b GET \"/\"; expect status = 200; expect body contains \"a\"; \x7d".toUTF8),
          (["a.rs"], .folder)] ∧
        ((run ["a.test"] : StateM (World FileTree) Nat).run w).1 = 1 :=
      ⟨{ files := { nodes := [(["a.test"], .file
          "test t \x7b GET \"/\"; expect status = 200; expect body contains \"a\"; \x7d".toUTF8),
          (["a.rs"], .folder)] } },
        rfl, by decide +kernel⟩
    have hr : (run ["a.test"] : StateM (World FileTree) Nat).run w = (1, _) := Prod.ext hcode rfl
    obtain ⟨hfailed, -⟩ := run_all_or_nothing FileTree.lawful hc hr
    rw [hd] at hfailed
    exact ⟨w, _, hw, hr, hfailed (by decide)⟩

end Host

end HttpSuite
