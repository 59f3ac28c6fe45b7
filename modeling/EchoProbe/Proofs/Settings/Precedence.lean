import EchoProbe.Proofs.Files
import EchoProbe.Proofs.Settings.EnvFile
import EchoProbe.Proofs.Settings.Placeholders
import EchoProbe.Proofs.Settings.Setting
import EchoProbe.Proofs.Toml.Parser

/-!
# Which source of a setting wins

A flag wins over a variable, a variable over the document, and the document over the
default (`Setting.settled?`). This is what loading comes to for every setting, whichever way
the document is found, and both the variables and the placeholders of the document are those of
the environment with what the nearest environment file adds (`layered_of_load`).
-/

namespace EchoProbe.Settings

open Toml Command

variable {env : Environment} {files : FileTree} {path : Option String} {loaded : Settings}

/-- Where the document stands: at the path that is given, else at the default path if something
stands there. -/
def documentPath? (files : FileTree) (path : Option String) : Option String :=
  path.or (if files.holds defaultPath then some defaultPath else none)

/-- **The document that is read**, with its placeholders replaced. Without a file it is empty. -/
def document? (env : Environment) (files : FileTree) (path : Option String) : Option Entries :=
  match documentPath? files path with
  | some path => (files.text path).toOption.bind fun text => Toml.parse (env.expand text)
  | none => some []

/-- What the environment file that was found assigns, the first first. -/
def assignments (env : Environment) (found : Option (List UInt8)) : List (String × String) :=
  found.elim [] (EnvFile.assignments env)

/-- **The value that a setting ends up with**: that of its flag, else the one that its variable
spells, else the one in the document, else its default. -/
def Setting.settled? (x : Setting) (choices : Choices) (env : Environment) (document : Entries) :
    Option Value :=
  match x.flag? choices with
  | some value => some value
  | none =>
    match x.raw? env with
    | some raw => (x.kind.parse raw).toOption
    | none =>
      match x.node? document with
      | some node => (x.kind.decode node).toOption
      | none => some (x.get {})

/-- What each layer gives comes to what the setting ends up with. -/
theorem Setting.settled?_eq {x : Setting} {choices : Choices} {document : Entries}
    {decoded : Settings}
    (hdecoded : Given x.kind.decode (x.node? document) (x.get {}) (x.get decoded))
    (hloaded : Given x.kind.parse (x.raw? env) (x.get decoded) (x.get loaded)) :
    x.settled? choices env document = some (x.get (choices.apply loaded)) := by
  rw [Setting.get_apply]
  unfold Setting.settled?
  cases x.flag? choices with
  | some value => rfl
  | none =>
    cases hraw : x.raw? env with
    | some raw =>
      rw [hraw] at hloaded
      exact congrArg Except.toOption hloaded
    | none =>
      rw [hraw] at hloaded
      have hsame : x.get loaded = x.get decoded := hloaded
      rw [Option.getD_none, hsame]
      cases hnode : x.node? document with
      | some node =>
        rw [hnode] at hdecoded
        exact congrArg Except.toOption hdecoded
      | none =>
        rw [hnode] at hdecoded
        exact congrArg some (Eq.symm hdecoded)

theorem exists_of_fromFile {path : String} (h : fromFile env files path = .ok loaded) :
    ∃ text document decoded, files.text path = .ok text ∧
      Toml.parse (env.expand text) = some document ∧
      decodeDocument document = .ok decoded ∧ decoded.override env = .ok loaded := by
  obtain ⟨text, htext, h⟩ := exists_of_bind_eq_ok h
  obtain ⟨decoded, hdecoded, hoverride⟩ := exists_of_bind_eq_ok h
  unfold fromDocument at hdecoded
  split at hdecoded
  · cases hdecoded
  · next document hparse =>
    exact ⟨text, document, decoded, eq_ok_of_mapError_eq_ok htext, hparse,
      eq_ok_of_mapError_eq_ok hdecoded, hoverride⟩

/-- **The two layers of loading**: a document that holds no name twice, and the variables. -/
theorem exists_of_resolve (h : resolve env files path = .ok loaded) :
    ∃ document decoded, document? env files path = some document ∧ document.Distinct ∧
      decodeDocument document = .ok decoded ∧ decoded.override env = .ok loaded := by
  have hfile : ∀ {path'}, documentPath? files path = some path' →
      fromFile env files path' = .ok loaded →
      ∃ document decoded, document? env files path = some document ∧ document.Distinct ∧
        decodeDocument document = .ok decoded ∧ decoded.override env = .ok loaded := by
    intro path' hpath hfile
    obtain ⟨text, document, decoded, htext, hparse, hdecode, hoverride⟩ := exists_of_fromFile hfile
    refine ⟨document, decoded, ?_, distinct_of_parse hparse, hdecode, hoverride⟩
    have hsome : (files.text path').toOption = some text := by
      rw [htext]
      rfl
    rw [document?, hpath]
    dsimp only
    rw [hsome, Option.bind_some, hparse]
  unfold resolve at h
  split at h
  · next path => exact hfile rfl h
  · split at h
    · next hholds => exact hfile (by rw [documentPath?, if_pos hholds]; rfl) h
    · next hholds =>
      refine ⟨[], {}, ?_, .nil, rfl, h⟩
      rw [document?, documentPath?, if_neg hholds]
      rfl

/-- Every directory that is searched exists, so that nothing ends the search but a file. -/
theorem findEnvFile?_eq_findSome? {directories : List (List String)}
    (h : ∀ d ∈ directories, FileTree.isGiven d = true) :
    findEnvFile? files directories = directories.findSome? (files.fileIn? envFileName) := by
  induction directories with
  | nil => rfl
  | cons directory directories ih =>
    have hfollow : files.follow directory [envFileName]
        = (files.at? (directory ++ [envFileName])).elim (.error .noSuchFile) .ok :=
      FileTree.follow_name (h directory List.mem_cons_self) (by decide) (by decide)
    have ih := ih fun d hd => h d (List.mem_cons_of_mem directory hd)
    rw [findEnvFile?, List.findSome?_cons, hfollow, FileTree.fileIn?]
    cases files.at? (directory ++ [envFileName]) with
    | none => exact ih
    | some entry =>
      cases entry with
      | file content => rfl
      | directory => exact ih

/-- **The environment file that is found is the nearest one.** -/
theorem nearest_findEnvFile? (files : FileTree) :
    files.Nearest envFileName (findEnvFile? files files.ancestors) := by
  rw [findEnvFile?_eq_findSome? fun _ => FileTree.isGiven_of_mem_ancestors]
  exact files.nearest_findSome? (by decide)

/-- **The environment that settings are loaded in**, name by name. -/
theorem read?_withEnvFile (env : Environment) (files : FileTree) (name : String) :
    (withEnvFile env files).read? name
      = (env.read? name).or
        ((assignments env (findEnvFile? files files.ancestors)).lookup name) := by
  unfold withEnvFile assignments
  cases findEnvFile? files files.ancestors with
  | some bytes => exact EnvFile.read?_load env bytes name
  | none => exact Option.or_none.symm

/-- **Settings that come from their sources**, where `env` is the environment that was found and
`complete` the one that is left behind. -/
structure Layered (choices : Choices) (env complete : Environment) (files : FileTree)
    (path : Option String) (s : Settings) : Prop where
  /-- The nearest environment file adds only what cannot be read yet. -/
  environment : ∃ found, files.Nearest envFileName found ∧ ∀ name,
    complete.read? name = (env.read? name).or ((assignments env found).lookup name)
  /-- Each setting has the value of the first source that has one. -/
  settled : ∃ document, document? complete files path = some document ∧
    ∀ x : Setting, x.settled? choices complete document = some (x.get s)

/-- Two environments in which the same can be read give the same document, … -/
theorem document?_congr {env' : Environment} (h : ∀ name, env.read? name = env'.read? name)
    (files : FileTree) (path : Option String) :
    document? env files path = document? env' files path := by
  simp only [document?, Environment.expand_congr h]

/-- … and each setting the same value. -/
theorem Setting.settled?_congr {env' : Environment} (h : ∀ name, env.read? name = env'.read? name)
    (x : Setting) (choices : Choices) (document : Entries) :
    x.settled? choices env document = x.settled? choices env' document := by
  simp only [Setting.settled?, Setting.raw?, h]

/-- **The sources determine the settings.** -/
theorem Layered.unique {choices : Choices} {complete complete' : Environment} {s s' : Settings}
    (h : Layered choices env complete files path s)
    (h' : Layered choices env complete' files path s') : s = s' := by
  obtain ⟨⟨found, hnearest, hread⟩, document, hdocument, hsettled⟩ := h
  obtain ⟨⟨found', hnearest', hread'⟩, document', hdocument', hsettled'⟩ := h'
  obtain rfl := hnearest.unique hnearest'
  have hsame : ∀ name, complete.read? name = complete'.read? name :=
    fun name => (hread name).trans (hread' name).symm
  rw [document?_congr hsame] at hdocument
  obtain rfl := Option.some.inj (hdocument.symm.trans hdocument')
  refine Setting.eq_of_get_eq fun x => Option.some.inj ?_
  rw [← hsettled x, ← hsettled' x, Setting.settled?_congr hsame]

/-- **Flags win over variables, variables over the document, and the document over the defaults**,
whenever the settings can be loaded. -/
theorem layered_of_load (choices : Choices) (h : (load env files path).2 = .ok loaded) :
    Layered choices env (load env files path).1 files path (choices.apply loaded) := by
  obtain ⟨document, decoded, hdocument, hdistinct, hdecode, hoverride⟩ := exists_of_resolve h
  refine ⟨⟨_, nearest_findEnvFile? files, read?_withEnvFile env files⟩, document, hdocument,
    fun x => ?_⟩
  have hdecoded := Setting.get_of_decodeDocument hdistinct hdecode x
  have hloaded := Setting.get_of_override hoverride x
  exact Setting.settled?_eq hdecoded hloaded

/-- An environment in which one variable cannot be read and another one is empty. -/
def layeredEnvironment : Environment where
  entries :=
    [("WSH_SERVER_TAG", Text.Utf8.encode "tag"), ("WSH_UPSTREAM_PORT", [0xFF]),
      ("WSH_SCENARIO", [])]

/-- An environment file. -/
def layeredVariables : List UInt8 :=
  Text.Utf8.encode "WSH_SERVER_TAG=unused\nWSH_UPSTREAM_PORT=9000\nPLACE=::1\n"

/-- A document with a placeholder. -/
def layeredDocument : List UInt8 :=
  Text.Utf8.encode
    "[upstream]\nhost = '$\x7bPLACE\x7d'\nport = 1\n[probe]\nscenario = 'minimal'\n"

/-- A working directory with the document, in a directory with the environment file. What has the
name of one in the working directory is no file. -/
def layeredFiles : FileTree :=
  ⟨[([".env"], .directory), (["..", ".env"], .file layeredVariables),
    (["c"], .file layeredDocument)]⟩

/-- What is loaded there: the host by way of the environment file, the port from it, the tag from
the environment, and the scenario from the document. -/
def layeredSettings : Settings where
  server := { host := "::1", port := 9000, serverTag := "tag" }
  probe := { scenario := .minimal }

/-- All sources at once, and a flag that makes the probe strict. -/
theorem layered_of_load_strict :
    (load layeredEnvironment layeredFiles (some "c")).2 = .ok layeredSettings ∧
      Layered { strict := true } layeredEnvironment
        (load layeredEnvironment layeredFiles (some "c")).1 layeredFiles (some "c")
        (Choices.apply { strict := true } layeredSettings) := by
  have hload : (load layeredEnvironment layeredFiles (some "c")).2 = .ok layeredSettings := by
    have hdocument : layeredFiles.entry "c" = .ok (.file layeredDocument) := by
      have hparts : "c".splitOn "/" = ["c"] := by
        show String.splitOnAux "c" "/" 0 0 0 [] = _
        rw [String.splitOnAux.eq_def, if_neg (by decide +kernel), if_neg (by decide +kernel),
          String.splitOnAux.eq_def, if_pos (by decide +kernel)]
        decide +kernel
      exact FileTree.entry_eq_file rfl (by decide +kernel) hparts (by decide) (by decide +kernel)
        (by decide +kernel)
    apply eq_ok_of_toOption_eq_some
    simp only [load, resolve, fromFile, FileTree.text, FileTree.bytes, hdocument]
    decide +kernel
  exact ⟨hload, layered_of_load { strict := true } hload⟩

end EchoProbe.Settings
