import DeclSplit.Config.Load
import DeclSplit.Output
import DeclSplit.Proofs.Text.Reading
import DeclSplit.Proofs.Yaml
import DeclSplit.Proofs.Yaml.Scalar
import Mathlib.Control.Monad.Basic

/-!
# Files without a configuration

A file has no configuration if it cannot be read, if it is not well formed, or if its values are not those
of a configuration.  But there are other errors too: not everything that is wrong with the contents of a
file is seen as an error of the configuration.

* `Config.LoadError.Escapes` — the other errors of contents, each with what is wrong in the contents;
* `Config.resolve_cases` — what choosing a file and loading it comes to;
* `Config.load_not_utf8` — a file of one byte with such an error.
-/

namespace DeclSplit.Config

open Text (Utf8.fault? readPieces)
open Yaml (Graph Node escapeWidth? scalarValue tokens)

/-- Contents as far as they can be read. -/
def inputOf (contents : List UInt8) : Yaml.Input :=
  .ofReading (readPieces contents)

/-- The nodes of the document that contents hold. -/
def HasGraph (limits : Limits) (contents : List UInt8) (g : Graph) : Prop :=
  Graph.ofTokens limits.collections (tokens (inputOf contents)) = .ok (some g)

/-- The errors of contents that are neither errors of the file system nor of the configuration. -/
inductive LoadError.Escapes (limits : Limits) (contents : List UInt8) : LoadError → Prop
  /-- The bytes are not UTF-8. -/
  | encoding {fault : Text.Utf8.Fault} (h : Utf8.fault? contents ≠ none) :
      Escapes limits contents (.encoding fault)
  /-- There is an escape whose digits are no number of a character. -/
  | escape {mark : Char} {digits : List Char} {n : Nat}
      (hescape : '\\' :: mark :: digits <:+: (inputOf contents).text)
      (hwidth : escapeWidth? mark = some digits.length) (hnumber : Text.hexNumber? digits = some n)
      (hn : 0x110000 ≤ n) : Escapes limits contents (.scalar (.noSuchCharacter (Nat.pow 2 31 ≤ n)))
  /-- There is a number with too many digits, which can be one in a directive. -/
  | directive {digits : List Char} (hdigits : digits <:+: (inputOf contents).text)
      (hall : ∀ c ∈ digits, c.isDigit = true) (hlength : 4300 < digits.length) :
      Escapes limits contents (.scalar (.tooManyDigits digits.length))
  /-- As many collections are opened as there may be in one another. -/
  | nesting (h : limits.collections ≤ (tokens (inputOf contents)).toList.countP Yaml.Token.opens) :
      Escapes limits contents (.scalar .tooDeep)
  /-- Too many mappings stand for one scalar. -/
  | standIns {g : Graph} (hg : HasGraph limits contents g)
      (h : limits.standIns = 0 ∨ ∃ node ∈ g.nodes, node.tag = .value) :
      Escapes limits contents (.scalar .tooDeep)
  /-- A mapping that stands for a scalar is marked as a date. -/
  | mapping {g : Graph} {node : Node} {entries : List (Nat × Nat)} (hg : HasGraph limits contents g)
      (hnode : node ∈ g.nodes) (htag : node.tag = .timestamp)
      (hcontent : node.content = .mapping entries) : Escapes limits contents (.scalar .notAText)
  /-- The text of a node has no value of the kind that the node is marked as or that its own form says it
  is. -/
  | scalar {g : Graph} {node : Node} {text : List Char} {fault : Yaml.Fault}
      (hg : HasGraph limits contents g) (hnode : node ∈ g.nodes) (htext : g.HasText node text)
      (hvalue : scalarValue node.tag text = .error fault) (hfault : fault ≠ .malformed) :
      Escapes limits contents (.scalar fault)

/-- The errors that contents can have: those of a configuration, and the others. -/
def LoadError.IsOf (limits : Limits) (contents : List UInt8) (e : LoadError) : Prop :=
  (∃ cause, e = .config cause) ∨ e.Escapes limits contents

/-! ### Contents -/

theorem stop_ofPieces {stop : Option Yaml.Fault} {pieces : List (List Char)} {f : Yaml.Fault}
    (h : (Yaml.Input.ofPieces stop pieces).stop = some f) : stop = some f ∨ f = .malformed := by
  induction pieces with
  | nil => exact .inl h
  | cons piece rest ih =>
    rw [Yaml.Input.ofPieces] at h
    split at h
    next => exact ih h
    next => exact .inr (Option.some.inj h).symm

/-- An input that cannot be read on has a character that may not stand in a text, or the bytes are not
UTF-8. -/
theorem stop_ofReading {reading : Text.Reading} {f : Yaml.Fault}
    (h : (Yaml.Input.ofReading reading).stop = some f) :
    f = .malformed ∨ ∃ fault, reading.fault = some fault ∧ f = .undecodable fault := by
  have hstop : ∀ {f}, reading.fault.map Yaml.Fault.undecodable = some f →
      ∃ fault, reading.fault = some fault ∧ f = .undecodable fault := by
    intro f hf
    obtain ⟨fault, hfault, rfl⟩ := Option.map_eq_some_iff.1 hf
    exact ⟨fault, hfault, rfl⟩
  rw [Yaml.Input.ofReading] at h
  split at h
  next =>
    rcases stop_ofPieces h with hstopped | hmalformed
    · exact .inr (hstop hstopped)
    · exact .inl hmalformed
  next =>
    split at h
    next => exact .inr (hstop h)
    next =>
      rcases stop_ofPieces h with hnone | hmalformed
      · exact nomatch hnone
      · exact .inl hmalformed

section Faults

variable {limits : Limits} {contents : List UInt8} {fault : Yaml.Fault} (path : String)

theorem isOf_of_isLexical (h : fault.IsLexical (inputOf contents).text) :
    (LoadError.ofFault path fault).IsOf limits contents := by
  cases h with
  | malformed | unfinished => exact .inl ⟨_, rfl⟩
  | noSuchCharacter hescape hwidth hnumber hn => exact .inr (.escape hescape hwidth hnumber hn)
  | tooManyDigits hdigits hall hlength => exact .inr (.directive hdigits hall hlength)

theorem isOf_of_refused {g : Graph} {node : Node} {text : List Char} (hg : HasGraph limits contents g)
    (hnode : node ∈ g.nodes) (htext : g.HasText node text)
    (hvalue : scalarValue node.tag text = .error fault) :
    (LoadError.ofFault path fault).IsOf limits contents := by
  have hrefuses : node.tag.Refuses fault := by
    have hfails := Yaml.scalarValue_failsWith node.tag text
    rwa [hvalue] at hfails
  cases fault with
  | malformed | unfinished => exact .inl ⟨_, rfl⟩
  | undecodable fault => cases htag : node.tag <;> rw [htag] at hrefuses <;> exact nomatch hrefuses
  | _ => exact .inr (.scalar hg hnode htext hvalue nofun)

theorem isOf_of_isFound {g : Graph} (hg : HasGraph limits contents g)
    (h : fault.IsFound limits.standIns g) : (LoadError.ofFault path fault).IsOf limits contents := by
  cases h with
  | malformed => exact .inl ⟨_, rfl⟩
  | tooDeep h => exact .inr (.standIns hg h)
  | notAText hnode htag hcontent => exact .inr (.mapping hg hnode htag hcontent)
  | refused hnode htext hvalue => exact isOf_of_refused path hg hnode htext hvalue

theorem isOf_of_arises (h : fault.Arises limits (inputOf contents)) :
    (LoadError.ofFault path fault).IsOf limits contents := by
  cases h with
  | lexical h => exact isOf_of_isLexical path h
  | stopped h =>
    rcases stop_ofReading h with rfl | ⟨fault, hfault, rfl⟩
    · exact .inl ⟨_, rfl⟩
    · exact .inr (.encoding (Text.fault?_of_readPieces (by rw [hfault]; exact nofun)))
  | nested h => exact .inr (.nesting h)
  | found hg h => exact isOf_of_isFound path hg h

end Faults

/-- What loading contents comes to. -/
theorem ofContents_failsWith (limits : Limits) (path : String) (contents : List UInt8) :
    FailsWith (LoadError.IsOf limits contents) (ofContents limits path contents) := by
  have hparse := Yaml.parse_failsWith limits Config.depth (inputOf contents)
  refine FailsWith.bind (hparse.mapError fun fault => isOf_of_arises path) fun data => ?_
  exact (failsWith_any _).mapError fun fault _ => .inl ⟨fault, rfl⟩

/-! ### Files -/

/-- What choosing a file and loading it comes to. -/
theorem resolve_cases (limits : Limits) (fs : FileSystem) (asked environment : Option String) :
    match chosenFile fs asked environment with
    | .error e => resolve limits fs asked environment = .error (.file e)
    | .ok none => resolve limits fs asked environment = .ok default
    | .ok (some path) =>
      match fs.readFile path with
      | .error e => resolve limits fs asked environment = .error (.file e)
      | .ok contents => FailsWith (LoadError.IsOf limits contents) (resolve limits fs asked environment) := by
  rw [resolve]
  cases hchosen : chosenFile fs asked environment with
  | error e => rfl
  | ok file? =>
    cases file? with
    | none => rfl
    | some path =>
      show match fs.readFile path with
        | .error e => load limits fs path = .error (.file e)
        | .ok contents => FailsWith (LoadError.IsOf limits contents) (load limits fs path)
      rw [load]
      cases hcontents : fs.readFile path with
      | error e => rfl
      | ok contents => exact ofContents_failsWith limits path contents

/-- A file of one byte that is not UTF-8 has an error that is not one of the configuration. -/
theorem load_not_utf8 :
    load ⟨1000, 1000, 1000, 1000⟩
        { entries := [(["c.yaml"], .file 0)], contents := [(0, [0xff])], workingDirectory := [] }
        "c.yaml" =
      .error (.encoding ⟨0, [0xff], .invalidStart⟩) := by
  decide +kernel

example :
    ofContents ⟨1000, 1000, 1000, 1000⟩ "c.yaml" (asciiBytes "a: 2001-13-45".toList) =
      .error (.scalar (.calendar .month)) := by
  decide +kernel

end DeclSplit.Config
