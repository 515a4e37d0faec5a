import PropertyGate.Launch.CommandLine

/-!
# Launch/Help — what the program says about itself

The help lists every setting with its variable, the value that the variable has, the standard value
and the values there are. What is said about a setting stands in lines of its own, set in.
-/

namespace PropertyGate

/-- What the program is called. -/
def programName : String := "postprop-server"

def versionText : String := programName ++ " 0.1.0\n"

namespace Setting

/-- What the help says about the setting. -/
def description : Setting → String
  | .host => "Address to bind"
  | .port => "Port to listen on (0 = OS-assigned)"
  | .definitions => "JSON file with `groups` and `fields` to declare at startup"
  | .contentFlagging => "JSON file with content flagging settings"
  | .dispatch => "How permission handlers are scheduled within a request"
  | .maxFields => "Largest number of fields accepted in one patch"
  | .requesterHeader => "Header carrying the authenticated requester ID"
  | .corsOrigins => "Allowed CORS origins, comma separated"
  | .requestTimeoutSecs => "Request deadline in seconds"
  | .tlsCert => "TLS certificate (PEM). Requires `--tls-key`"
  | .tlsKey => "TLS private key (PEM). Requires `--tls-cert`"
  | .metricsAddress => "Expose Prometheus metrics on this address"
  | .logJson => "Emit logs as JSON lines"

/-- The standard value, where the help shows one. -/
def standard? (setting : Setting) : Option String :=
  let standard : Settings := {}
  match setting with
  | .host => some standard.host
  | .port => some standard.port.toNat.repr
  | .dispatch => some standard.dispatch.name
  | .maxFields => some standard.maxFields.repr
  | .requesterHeader => some standard.requesterHeader
  | .corsOrigins => some (",".intercalate standard.corsOrigins)
  | .requestTimeoutSecs => some standard.requestTimeoutSecs.repr
  | _ => none

/-- The values there are, where the help lists them. -/
def values? : Setting → Option (List String)
  | .dispatch => some (dispatchWords.map (·.1))
  | _ => none

/-- A remark in brackets, if there is something to remark. -/
def remark (label : String) : Option String → String
  | some text => " [" ++ label ++ text ++ "]"
  | none => ""

/-- What the lines about a setting begin with. -/
def indent : String := "          "

/-- Lines that are set in: a line that ends goes on below. -/
def indented (text : String) : String :=
  indent ++ ("\n" ++ indent).intercalate (Text.split '\n' text)

/-- The lines of the help about the setting. -/
def help (environment : Environment) (setting : Setting) : String :=
  "      " ++ Style.word.mark setting.flag ++ setting.placeholder ++ "\n"
    ++ indented (setting.description
      ++ remark ("env: " ++ setting.environmentName ++ "=")
        (some ((environment.get? setting.environmentName).getD ""))
      ++ remark "default: " setting.standard?
      ++ remark "possible values: " (setting.values?.map (", ".intercalate ·))) ++ "\n"

end Setting

/-- The lines of the help about an option that is no setting. -/
def flagHelp (letter name description : String) : String :=
  "  " ++ Style.word.mark letter ++ ", " ++ Style.word.mark name ++ "\n"
    ++ Setting.indented description ++ "\n"

/-- **The help**, with its marks. -/
def helpText (environment : Environment) : String :=
  "Post property patch server\n\n" ++ Style.heading.mark "Usage:" ++ " "
    ++ Style.word.mark programName ++ " [OPTIONS]\n\n" ++ Style.heading.mark "Options:" ++ "\n"
    ++ String.join (Setting.all.map (·.help environment))
    ++ flagHelp "-h" "--help" "Print help" ++ flagHelp "-V" "--version" "Print version"

end PropertyGate
