import PropertyGate.Failure
import PropertyGate.Flagging.Settings
import PropertyGate.Text.File

/-!
# Flagging/File — settings read from a file
-/

namespace PropertyGate

/-- **Reads the settings of content flagging**; `contents` are those of the file at `path`. -/
def FlaggingSettings.load (path : String) (contents : Contents) :
    Except Failure FlaggingSettings :=
  match readTextFile contents with
  | .error fault => .error ⟨"reading content flagging settings from " ++ path, [fault.message]⟩
  | .ok document =>
    match Json.decode FlaggingSettings.decoder document with
    | .error fault => .error ⟨"parsing content flagging settings in " ++ path, [fault.message]⟩
    | .ok settings => .ok settings

end PropertyGate
