import EchoProbe.Settings.Decoding
import EchoProbe.Settings.EnvFile
import EchoProbe.Settings.Overrides

/-!
# Loading the settings

Settings come from four places, the later winning over the earlier: the
defaults, a document, the environment, and the flags of the command line,
which are applied elsewhere. First a file `.env` adds variables to the
environment; it is looked for in the working directory and, as long as there
is none, in the directories above. Then the document is read: at the path
that is given, else at the default path if something stands there.
-/

namespace EchoProbe.Settings

/-- Where the document stands unless a path is given. -/
def defaultPath : String := "ws-harness.toml"

/-- The name of the file that adds variables. -/
def envFileName : String := ".env"

/-- Look for the environment file in some directories, in order. What has the
name and is no file is passed over; a fault other than that nothing stands
there ends the search. -/
def findEnvFile? (files : FileTree) : List (List String) → Option (List UInt8)
  | [] => none
  | directory :: directories =>
    match files.follow directory [envFileName] with
    | .ok (.file content) => some content
    | .ok .directory => findEnvFile? files directories
    | .error .noSuchFile => findEnvFile? files directories
    | .error _ => none

/-- The environment with the variables of the environment file that is
found, if one is. -/
def withEnvFile (env : Environment) (files : FileTree) : Environment :=
  match findEnvFile? files files.ancestors with
  | some bytes => EnvFile.load env bytes
  | none => env

/-- The settings of the document at a path, with the overrides. -/
def fromFile (env : Environment) (files : FileTree) (path : String) : Except Problem Settings := do
  let text ← (files.text path).mapError (.unreadable path)
  let settings ← fromDocument env text
  settings.override env

/-- The settings in an environment that is complete. -/
def resolve (env : Environment) (files : FileTree) (path : Option String) :
    Except Problem Settings :=
  match path with
  | some path => fromFile env files path
  | none =>
    if files.holds defaultPath then fromFile env files defaultPath
    else ({} : Settings).override env

/-- **Load the settings**: the environment that is left behind, and the
settings or what is wrong with them. -/
def load (env : Environment) (files : FileTree) (path : Option String) :
    Environment × Except Problem Settings :=
  let env := withEnvFile env files
  (env, resolve env files path)

end EchoProbe.Settings
