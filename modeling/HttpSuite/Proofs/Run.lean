import HttpSuite.Proofs.FileSystem
import HttpSuite.Run

/-!
# What a run does

A run is followed from step to step through a world in memory. Reading, parsing and checking change
nothing but what the user was told, so what a run does to files and to the standard output is seen
from how it ended.

* `Host.Compiled`: the ways in which a compilation ends.
* `Host.compiled_compile`: a compilation ends in one of them.
* `Host.run_of_parse`: the exit code.
* `Host.compiled_run`: the files after a run.
-/

namespace HttpSuite

/-- The text of a file, if it can be read and is UTF-8. -/
def FileSystem.readText? {φ : Type} [FileSystem φ] (s : φ) (path : String) : Option String :=
  (FileSystem.read? s path).bind String.fromUTF8?

/-- The settings of a run: those of the file, if one is given, with the tests that the command line
adds. -/
def CommandLine.settings {φ : Type} [FileSystem φ] (c : CommandLine) (s : φ) :
    Except RunError Settings :=
  match c.config with
  | none => .ok (Host.settings.extended c {})
  | some path =>
    match Settings.ofFile path (FileSystem.readText? s path) with
    | .ok base => .ok (Host.settings.extended c base)
    | .error e => .error (.settings e)

namespace Host

variable {φ α β : Type}

/-- What an action that may fail comes to, and the world after it. -/
def outcome (x : ExceptT RunError (StateM (World φ)) α) (w : World φ) :
    Except RunError α × World φ := x.run.run w

/-- **Sequences.** The second part runs in the world that the first one leaves. -/
theorem outcome_bind (x : ExceptT RunError (StateM (World φ)) α)
    (f : α → ExceptT RunError (StateM (World φ)) β) (w : World φ) :
    outcome (x >>= f) w =
      match outcome x w with
      | (.ok a, w') => outcome (f a) w'
      | (.error e, w') => (.error e, w') := by
  change (match outcome x w with | (r, w') => ExceptT.bindCont f r w') = _
  rcases outcome x w with ⟨r, w'⟩
  cases r with
  | ok a => rfl
  | error e => rfl

theorem outcome_bind_ok {x : ExceptT RunError (StateM (World φ)) α} {a : α} {w w' : World φ}
    (h : outcome x w = (.ok a, w')) (f : α → ExceptT RunError (StateM (World φ)) β) :
    outcome (x >>= f) w = outcome (f a) w' := by
  rw [outcome_bind, h]

/-- A run that fails does nothing more. -/
theorem outcome_bind_error {x : ExceptT RunError (StateM (World φ)) α} {e : RunError}
    {w w' : World φ} (h : outcome x w = (.error e, w'))
    (f : α → ExceptT RunError (StateM (World φ)) β) : outcome (x >>= f) w = (.error e, w') := by
  rw [outcome_bind, h]

variable [FileSystem φ]

theorem outcome_readText? (path : String) (w : World φ) :
    outcome (readText? path) w = (.ok (FileSystem.readText? w.files path), w) := rfl

theorem outcome_print (text : String) (w : World φ) :
    outcome (print text) w = (.ok (), { w with stdout := w.stdout ++ text }) := rfl

/-- Telling the user something changes nothing else. -/
theorem outcome_tellUnless (quiet : Bool) (n : Notice) (w : World φ) :
    ∃ notices, outcome (tellUnless quiet n) w = (.ok (), { w with notices := notices }) := by
  cases quiet with
  | true => exact ⟨w.notices, rfl⟩
  | false => exact ⟨w.notices ++ [n], rfl⟩

/-- Notices go to the error output and change nothing else. -/
theorem outcome_tellAll (quiet : Bool) (ws : List Warning) (w : World φ) :
    ∃ notices, outcome (ws.forM fun n => tellUnless quiet (.warning n)) w =
      (.ok (), { w with notices := notices }) := by
  induction ws generalizing w with
  | nil => exact ⟨w.notices, rfl⟩
  | cons n ws ih =>
    obtain ⟨notices, hn⟩ := outcome_tellUnless quiet (.warning n) w
    obtain ⟨notices', hns⟩ := ih { w with notices := notices }
    refine ⟨notices', ?_⟩
    exact (outcome_bind_ok hn _).trans hns

theorem outcome_settings (c : CommandLine) (w : World φ) :
    outcome (settings c) w = (c.settings w.files, w) := by
  unfold settings CommandLine.settings
  cases c.config with
  | none => rfl
  | some path =>
    refine (outcome_bind_ok (outcome_readText? path w) _).trans ?_
    dsimp only
    cases Settings.ofFile path (FileSystem.readText? w.files path) with
    | ok base => rfl
    | error e => rfl

/-- Parsing changes only what the user was told. -/
theorem outcome_parse (quiet : Bool) (source : String) (w : World φ) :
    ∃ notices, outcome (parse quiet source) w =
      ((Suite.parse source).result.mapError .parse, { w with notices := notices }) := by
  obtain ⟨notices, hn⟩ := outcome_tellAll quiet (Suite.parse source).warnings w
  refine ⟨notices, (outcome_bind_ok hn _).trans ?_⟩
  cases (Suite.parse source).result with
  | ok suite => rfl
  | error e => rfl

theorem outcome_replaceFile (path text : String) (w : World φ) :
    outcome (replaceFile path text) w =
      (.ok (FileSystem.replace w.files path text).1,
        { w with files := (FileSystem.replace w.files path text).2 }) := by
  unfold replaceFile FileSystem.replace
  -- both sides go the same way at the write and at the move
  rcases hw : FileSystem.write w.files (Path.temporary path) text.toUTF8 with ⟨written, s₁⟩
  have hwrite : outcome (write (Path.temporary path) text.toUTF8) w =
      (.ok written, { w with files := s₁ }) := by
    change (Except.ok (FileSystem.write w.files (Path.temporary path) text.toUTF8).1,
      { w with files := (FileSystem.write w.files (Path.temporary path) text.toUTF8).2 }) = _
    rw [hw]
  refine (outcome_bind_ok hwrite _).trans ?_
  simp only [hw]
  cases written with
  | false => rfl
  | true =>
    rcases hr : FileSystem.rename s₁ (Path.temporary path) path with ⟨done, s₂⟩
    have hrename : outcome (rename (Path.temporary path) path) { w with files := s₁ } =
        (.ok done, { w with files := s₂ }) := by
      change (Except.ok (FileSystem.rename s₁ (Path.temporary path) path).1,
        { w with files := (FileSystem.rename s₁ (Path.temporary path) path).2 }) = _
      rw [hr]
    refine (outcome_bind_ok hrename _).trans ?_
    simp only [if_true]
    cases done with
    | false => rfl
    | true => rfl

/-- **The ways in which a compilation ends.** -/
inductive Compiled (c : CommandLine) (w : World φ) : Except RunError Unit → World φ → Prop
  /-- There is a problem, and no output was begun. -/
  | refused {e : RunError} {w' : World φ} (hf : w'.files = w.files) (ho : w'.stdout = w.stdout) :
      Compiled c w (.error e) w'
  /-- The tree or the tests were printed. -/
  | printed {w' : World φ} (h : c.emitAst = true ∨ c.destination = .stdout)
      (hf : w'.files = w.files) : Compiled c w (.ok ()) w'
  /-- The suite was only to be checked. -/
  | checked {w' : World φ} (h : c.check = true) (hf : w'.files = w.files) :
      Compiled c w (.ok ()) w'
  /-- The tests replaced a file. -/
  | delivered {w' : World φ} {source path : String} {settings : Settings} {suite : Suite}
      (hread : FileSystem.readText? w.files c.input = some source)
      (hsettings : c.settings w.files = .ok settings)
      (hparse : (Suite.parse source).result = .ok suite) (hvalid : suite.validate = .ok ())
      (ha : c.emitAst = false) (hc : c.check = false) (hd : c.destination = .file path)
      (hr : FileSystem.replace w.files path (suite.generate settings c.input) = (true, w'.files)) :
      Compiled c w (.ok ()) w'
  /-- The file could not be replaced. -/
  | undelivered {w' : World φ} {path text : String} (hd : c.destination = .file path)
      (hr : FileSystem.replace w.files path text = (false, w'.files)) (ho : w'.stdout = w.stdout) :
      Compiled c w (.error (.output c.destination)) w'

theorem outcome_deliver_stdout (code : String) (w : World φ) :
    outcome (deliver .stdout code) w = (.ok (), { w with stdout := w.stdout ++ code }) := rfl

/-- Code that goes to a file replaces it, or the run fails. -/
theorem outcome_deliver_file {path code : String} {w : World φ} {done : Bool} {s : φ}
    (h : FileSystem.replace w.files path code = (done, s)) :
    outcome (deliver (.file path) code) w =
      (if done then .ok () else .error (.output (.file path)), { w with files := s }) := by
  have hreplace := outcome_replaceFile path code w
  rw [h] at hreplace
  refine (outcome_bind_ok hreplace _).trans ?_
  cases done with
  | true => rfl
  | false => rfl

/-- Telling the user how it went is no part of how it ends. -/
theorem compiled_tellUnless {c : CommandLine} {quiet : Bool} {n : Notice} {w w₁ : World φ}
    (h : ∀ notices, Compiled c w (.ok ()) { w₁ with notices := notices }) :
    Compiled c w (outcome (tellUnless quiet n) w₁).1 (outcome (tellUnless quiet n) w₁).2 := by
  obtain ⟨notices, hn⟩ := outcome_tellUnless quiet n w₁
  rw [hn]
  exact h notices

/-- The steps after parsing, from a world that differs in what the user was told. -/
theorem compiled_build {c : CommandLine} {settings : Settings} {suite : Suite} {source : String}
    {w w₁ : World φ} (hread : FileSystem.readText? w.files c.input = some source)
    (hsettings : c.settings w.files = .ok settings)
    (hparse : (Suite.parse source).result = .ok suite) (ha : c.emitAst = false)
    (hf : w₁.files = w.files) (ho : w₁.stdout = w.stdout) :
    Compiled c w (outcome (build c settings suite) w₁).1
      (outcome (build c settings suite) w₁).2 := by
  unfold build
  cases hvalid : suite.validate with
  | error e => exact .refused hf ho
  | ok u =>
    cases u
    dsimp only
    -- from here on the source is valid: what happens next is a matter of the command line
    by_cases hc : c.check = true
    · rw [if_pos hc]
      exact compiled_tellUnless fun _ => .checked hc hf
    · rw [if_neg hc]
      cases hd : c.destination with
      | stdout =>
        have hdeliver := outcome_deliver_stdout (suite.generate settings c.input) w₁
        rw [outcome_bind_ok hdeliver]
        exact compiled_tellUnless fun _ => .printed (.inr hd) hf
      | file path =>
        rcases hr : FileSystem.replace w₁.files path (suite.generate settings c.input)
          with ⟨done, s⟩
        have hdeliver := outcome_deliver_file hr
        rw [hf] at hr
        -- the file system decides whether the code is delivered
        cases done with
        | true =>
          rw [outcome_bind_ok hdeliver]
          exact compiled_tellUnless fun _ =>
            .delivered hread hsettings hparse hvalid ha (by simpa using hc) hd hr
        | false =>
          rw [outcome_bind_error hdeliver, ← hd]
          exact .undelivered hd hr ho

/-- **A compilation ends in one of these ways.** -/
theorem compiled_compile (c : CommandLine) (w : World φ) :
    Compiled c w (outcome (compile c) w).1 (outcome (compile c) w).2 := by
  unfold compile
  -- until the suite is there every failure leaves the world as it was, but for what was told
  rw [outcome_bind_ok (outcome_readText? c.input w)]
  cases hread : FileSystem.readText? w.files c.input with
  | none => exact .refused rfl rfl
  | some source =>
    dsimp only
    have hloaded := outcome_settings c w
    cases hsettings : c.settings w.files with
    | error e =>
      rw [hsettings] at hloaded
      rw [outcome_bind_error hloaded]
      exact .refused rfl rfl
    | ok settings =>
      rw [hsettings] at hloaded
      rw [outcome_bind_ok hloaded]
      obtain ⟨notices, hn⟩ := outcome_tellUnless c.quiet (.progress s!"Compiling {c.input}") w
      rw [outcome_bind_ok hn]
      obtain ⟨notices', hp⟩ := outcome_parse c.quiet source { w with notices := notices }
      cases hparse : (Suite.parse source).result with
      | error e =>
        rw [hparse] at hp
        rw [outcome_bind_error hp]
        exact .refused rfl rfl
      | ok suite =>
        rw [hparse] at hp
        rw [outcome_bind_ok hp]
        by_cases ha : c.emitAst = true
        · rw [if_pos ha, outcome_print]
          exact .printed (.inl ha) rfl
        · rw [if_neg ha]
          exact compiled_build hread hsettings hparse (by simpa using ha) rfl rfl

/-- The exit code of a run, and the world after it. -/
theorem run_of_parse {args : List String} {c : CommandLine} (h : CommandLine.parse args = .ok c)
    (w : World φ) :
    (run args : StateM (World φ) Nat).run w =
      match outcome (compile c) w with
      | (.ok (), w') => (0, w')
      | (.error e, w') => (1, { w' with notices := w'.notices ++ [.failure e.diagnostic] }) := by
  rcases houtcome : outcome (compile c) w with ⟨r, w'⟩
  have hcompile : (compile c : ExceptT RunError (StateM (World φ)) Unit).run.run w = (r, w') :=
    houtcome
  unfold run
  rw [h]
  dsimp only
  rw [StateT.run_bind, hcompile]
  cases r with
  | ok u => rfl
  | error e => rfl

/-- A run leaves the files as its compilation does, and its exit code says how that ended. -/
theorem compiled_run {args : List String} {c : CommandLine} (h : CommandLine.parse args = .ok c)
    {w w' : World φ} {code : Nat} (hr : (run args : StateM (World φ) Nat).run w = (code, w')) :
    ∃ r w₁, Compiled c w r w₁ ∧ w'.files = w₁.files ∧ (r = .ok () → code = 0) := by
  have hcompiled := compiled_compile c w
  rw [run_of_parse h] at hr
  rcases houtcome : outcome (compile c) w with ⟨r, w₁⟩
  rw [houtcome] at hcompiled hr
  refine ⟨r, w₁, hcompiled, ?_⟩
  cases r with
  | ok u =>
    cases hr
    exact ⟨rfl, fun _ => rfl⟩
  | error e =>
    cases hr
    exact ⟨rfl, fun h => nomatch h⟩

end Host

end HttpSuite
