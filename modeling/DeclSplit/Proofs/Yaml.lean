import DeclSplit.Proofs.Yaml.Graph.Read
import DeclSplit.Proofs.Yaml.Graph.Value
import DeclSplit.Proofs.Yaml.Token.Lexer
import DeclSplit.Yaml

/-!
# Faults of documents

A document has no value because of a fault of its characters or of the end of the input, because its
nodes do not fit together, because they are nested too deep, or because a scalar has no value.

* `Yaml.Fault.Arises` — the faults of a document, each with where it comes from;
* `Yaml.parse_failsWith` — a document has no others.
-/

namespace DeclSplit.Yaml

/-- The faults of a document. -/
inductive Fault.Arises (limits : Limits) (input : Input) : Fault → Prop
  /-- A fault of the characters, or of nodes that do not fit together. -/
  | lexical {fault : Fault} (h : fault.IsLexical input.text) : Arises limits input fault
  /-- The input cannot be read on. -/
  | stopped {fault : Fault} (h : input.stop = some fault) : Arises limits input fault
  /-- Collections are nested too deep. -/
  | nested (h : limits.collections ≤ (tokens input).toList.countP Token.opens) :
      Arises limits input .tooDeep
  /-- A fault of the values of the nodes. -/
  | found {fault : Fault} {g : Graph}
      (hg : Graph.ofTokens limits.collections (tokens input) = .ok (some g))
      (h : fault.IsFound limits.standIns g) : Arises limits input fault

theorem Fault.IsRead.arises {limits : Limits} {input : Input} {fault : Fault}
    (h : fault.IsRead limits.collections (tokens input).toList) : fault.Arises limits input := by
  cases h with
  | malformed => exact .lexical .malformed
  | token h =>
    rcases faultsMet_tokens input fault (Array.mem_toList_iff.1 h) with hlexical | hstop
    · exact .lexical hlexical
    · exact .stopped hstop
  | tooDeep h => exact .nested h

/-- A document has no faults but those of its characters, its nodes and its scalars, and the one at the
end of its input. -/
theorem parse_failsWith (limits : Limits) (depth : Nat) (input : Input) :
    FailsWith (Fault.Arises limits input) (parse limits depth input) := by
  have htokens := ofTokens_failsWith limits.collections (tokens input)
  rw [parse]
  cases hg : Graph.ofTokens limits.collections (tokens input) with
  | error fault =>
    rw [hg] at htokens
    exact Fault.IsRead.arises htokens
  | ok g =>
    cases g with
    | none => trivial
    | some g => exact (g.value_failsWith limits.standIns depth).mono (fun _ => .found hg) fun _ => id

end DeclSplit.Yaml
