import RadioText.Json.Writer
import RadioText.Style.Evaluation
import RadioText.Style.TreeView
import RadioText.Style.Writer
import RadioText.Yaml.Scalar

/-! A style at one stage of its reading, in a format of one's choice: as tokens, as a template, or
as the lines it gives for some metadata. -/
namespace RadioText.Inspection

inductive Stage | token | template | output
deriving DecidableEq

inductive Format | simple | json | yaml | treeviz | style
deriving DecidableEq

def Stage.name : Stage → String
  | token => "token"
  | template => "template"
  | output => "output"

def Format.name : Format → String
  | simple => "simple"
  | json => "json"
  | yaml => "yaml"
  | treeviz => "treeviz"
  | style => "style"

structure Spec where
  stage : Stage
  format : Format
deriving DecidableEq

inductive SpecError
  | invalidFormat (name : Text)
  | invalidStage (name : Text)
  | unsupported (stage : Stage) (format : Format)

def SpecError.message : SpecError → Text
  | invalidFormat name => "invalid format: ".toList ++ name
  | invalidStage name => "invalid stage: ".toList ++ name
  | unsupported stage format =>
    "format '".toList ++ format.name.toList ++ "' is not available for stage '".toList
      ++ stage.name.toList ++ ['\'']

namespace Spec

/-- What there is to choose from. -/
def available : List Spec :=
  [⟨.token, .simple⟩, ⟨.token, .json⟩, ⟨.template, .treeviz⟩, ⟨.template, .style⟩,
    ⟨.template, .json⟩, ⟨.template, .yaml⟩, ⟨.output, .simple⟩, ⟨.output, .json⟩, ⟨.output, .yaml⟩]

def name (s : Spec) : Text := s.stage.name.toList ++ '-' :: s.format.name.toList

def stage? (t : Text) : Option Stage :=
  [Stage.token, .template, .output].find? (·.name.toList = t)

def format? (t : Text) : Option Format :=
  [Format.simple, .json, .yaml, .treeviz, .style].find? (·.name.toList = t)

/-- Read a stage and a format with a hyphen between them. -/
def read (t : Text) : Except SpecError Spec :=
  match t.dropWhile (· ≠ '-') with
  | [] => .error (.invalidFormat t)
  | _ :: format =>
    let stage := t.takeWhile (· ≠ '-')
    match stage? stage with
    | none => .error (.invalidStage stage)
    | some stage =>
      match format? format with
      | none => .error (.invalidFormat t)
      | some format =>
        if ⟨stage, format⟩ ∈ available then .ok ⟨stage, format⟩
        else .error (.unsupported stage format)

end Spec

/-- The kind of a token, filled up to ten characters, and its spelling in quotes. -/
def tokenLine (t : Token) : Text :=
  let kind := t.kind.toList
  kind ++ List.replicate (10 - kind.length) ' ' ++ ' ' :: Quoted.quote t.display

/-- A record with one member. -/
def tagged (name : String) (v : Json.Value) : Json.Value := .record [(name.toList, v)]

def tokenJson (t : Token) : Json.Value :=
  match t with
  | .text s => tagged "Text" (.text s)
  | .escaped c => tagged "Escaped" (.text [c])
  | t => .text t.kind.toList

mutual

def segmentJson : Segment → Json.Value
  | .literal t => tagged "Literal" (.text t)
  | .field k => tagged "Field" (.text k.name.toList)
  | .subgroup g => tagged "Subgroup" (tagged "segments" (.list (segmentsJson g)))

def segmentsJson : List Segment → List Json.Value
  | [] => []
  | s :: g => segmentJson s :: segmentsJson g

end

def templateJson (t : Template) : Json.Value :=
  .record [("source".toList, .text t.source),
    ("groups".toList, .list (t.groups.map fun g => tagged "segments" (.list (segmentsJson g))))]

mutual

/-- An item of a list that starts at `indent`. -/
def segmentYaml (indent : Nat) : Segment → Text
  | .literal t =>
    Yaml.spaces indent ++ "- !Literal ".toList ++ Yaml.scalarLine (indent + 2) t
  | .field k =>
    Yaml.spaces indent ++ "- !Field ".toList ++ Yaml.scalarLine (indent + 2) k.name.toList
  | .subgroup g =>
    Yaml.spaces indent ++ "- !Subgroup\n".toList ++ Yaml.spaces (indent + 2) ++ "segments:".toList
      ++ (if g.isEmpty then " []\n".toList else '\n' :: segmentsYaml (indent + 2) g)

def segmentsYaml (indent : Nat) : List Segment → Text
  | [] => []
  | s :: g => segmentYaml indent s ++ segmentsYaml indent g

end

def groupYaml (g : Group) : Text :=
  "- segments:".toList
    ++ (if g.isEmpty then " []\n".toList else '\n' :: segmentsYaml 2 g)

def templateYaml (t : Template) : Text :=
  "source: ".toList ++ Yaml.scalarLine 2 t.source ++ "groups:".toList
    ++ (if t.groups.isEmpty then " []\n".toList else '\n' :: t.groups.flatMap groupYaml)

def tokens (ts : List Token) : Format → Text
  | .simple => Text.join ['\n'] (ts.map tokenLine)
  | _ => (Json.Value.list (ts.map tokenJson)).write

def template (t : Template) : Format → Text
  | .treeviz => TreeView.draw t
  | .style => t.toStyle
  | .yaml => templateYaml t
  | _ => (templateJson t).write

def output (lines : List Text) : Format → Text
  | .simple => Text.join ['\n'] lines
  | .yaml => Yaml.textList lines
  | _ => (Json.Value.list (lines.map .text)).write

/-- A style as the choice asks. -/
def inspect (style : Text) (m : Metadata) (s : Spec) : Text :=
  match s.stage with
  | .token => tokens (Token.ofStyle style) s.format
  | .template => template (Template.ofStyle style) s.format
  | .output => output ((Template.ofStyle style).evaluate m) s.format

end RadioText.Inspection
