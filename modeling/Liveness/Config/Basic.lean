import Liveness.Json.Basic
import Liveness.Text.Quoted
import Liveness.Url.Parser
import Liveness.Url.Printer

/-! The configuration of a probe, when it is fit for use, and overrides, which replace
single fields. -/

namespace Liveness

structure Config where
  targetUrl : Url
  timeoutSecs : Option UInt64
  userAgent : Option String
  deriving DecidableEq

namespace Config

def defaultTarget : Url :=
  { scheme := "http"
    authority := some ⟨"", none, some (.domain "localhost"), some 22313⟩
    path := .segments [""]
    query := none
    fragment := none }

def default : Config := ⟨defaultTarget, none, none⟩

/-- What makes a configuration unfit. -/
inductive Unfit where
  | unsupportedScheme (scheme : String)
  | noHost (url : String)
  | zeroTimeout
  deriving DecidableEq, Repr

def Unfit.message : Unfit → String
  | .unsupportedScheme s => "Unsupported target_url scheme: " ++ s
  | .noHost u => "target_url has no host: " ++ u
  | .zeroTimeout => "timeout_secs must be greater than zero"

/-- Only web pages can be probed, and a timeout has to leave some time. -/
def validate (c : Config) : Except Unfit Unit :=
  if c.targetUrl.scheme ≠ "http" ∧ c.targetUrl.scheme ≠ "https" then
    .error (.unsupportedScheme c.targetUrl.scheme)
  else if c.targetUrl.host?.isNone then .error (.noHost c.targetUrl.toText)
  else if c.timeoutSecs = some 0 then .error .zeroTimeout
  else .ok ()

/-- Values that replace those of a configuration; the URL is still a text. -/
structure Overrides where
  targetUrl : Option String
  timeoutSecs : Option UInt64
  userAgent : Option String
  deriving DecidableEq, Repr

def Overrides.none : Overrides := ⟨.none, .none, .none⟩

/-- The text of an override that is no URL. -/
structure BadTarget where
  text : String
  cause : Url.Error
  deriving DecidableEq, Repr

def BadTarget.message (e : BadTarget) : String :=
  "Invalid PROBE_TARGET_URL " ++ Text.Quoted.encode e.text ++ ": " ++ e.cause.message

/-- A method of a configuration: it succeeds or fails, and leaves a configuration in either
case. -/
abbrev Method (ε : Type) : Type → Type := ExceptT ε (StateM Config)

/-- What calling a method comes to, and the configuration that it leaves. -/
def Method.call (x : Method ε α) (c : Config) : Except ε α × Config := (ExceptT.run x).run c

/-- Reads the text of a URL, and takes the URL over. -/
def assignTarget : Option String → Method BadTarget Unit
  | none => pure ()
  | some text =>
    match Url.parse text with
    | .ok u => modify fun c => { c with targetUrl := u }
    | .error cause => throw ⟨text, cause⟩

/-- Takes a value over, if there is one. -/
def assign (value : Option α) (write : α → Config → Config) : Method ε Unit :=
  match value with
  | none => pure ()
  | some a => modify (write a)

/-- Puts the values that the overrides give in the place of the old ones, one after the other.
The first may fail. -/
def Overrides.apply (o : Overrides) : Method BadTarget Unit := do
  assignTarget o.targetUrl
  assign o.timeoutSecs fun n c => { c with timeoutSecs := some n }
  assign o.userAgent fun a c => { c with userAgent := some a }

/-- The configuration that overrides make of another, if they can be applied. -/
def override (c : Config) (o : Overrides) : Except BadTarget Config :=
  match o.apply.call c with
  | (.ok _, c') => .ok c'
  | (.error e, _) => .error e

def toJson (c : Config) : Json.Value := .object
  [("target_url", .string c.targetUrl.toText),
   ("timeout_secs", .ofOption (fun n => .number n.toNat) c.timeoutSecs),
   ("user_agent", .ofOption .string c.userAgent)]

/-- The fields of a configuration by their names in files. -/
inductive Field where
  | targetUrl
  | timeoutSecs
  | userAgent
  deriving DecidableEq, Repr

def Field.name : Field → String
  | .targetUrl => "target_url"
  | .timeoutSecs => "timeout_secs"
  | .userAgent => "user_agent"

def Field.ofName? (s : String) : Option Field :=
  if s = "target_url" then some .targetUrl
  else if s = "timeout_secs" then some .timeoutSecs
  else if s = "user_agent" then some .userAgent
  else none

/-- The fields that a file has given so far. -/
structure Draft where
  targetUrl : Option Url
  timeoutSecs : Option (Option UInt64)
  userAgent : Option (Option String)

namespace Draft

def empty : Draft := ⟨none, none, none⟩

def has (d : Draft) : Field → Bool
  | .targetUrl => d.targetUrl.isSome
  | .timeoutSecs => d.timeoutSecs.isSome
  | .userAgent => d.userAgent.isSome

/-- Fields that are not given have their defaults. -/
def finish (d : Draft) : Config :=
  ⟨d.targetUrl.getD defaultTarget, d.timeoutSecs.getD none, d.userAgent.getD none⟩

end Draft

/-- What messages call the value that a file holds, and the values of its fields. -/
def expectedConfig : String := "struct ProbeConfig"

def expectedUrl : String := "a string representing an URL"

def expectedTimeout : String := "u64"

def expectedAgent : String := "a string"

end Config

end Liveness
