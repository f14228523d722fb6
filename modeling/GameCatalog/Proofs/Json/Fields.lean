import GameCatalog.Json.Record
import GameCatalog.Proofs.Json.Record
import Mathlib.Data.List.Forall2
import Mathlib.Data.List.Nodup

/-!
What the decoder of a record accepts.  An object is read by its members: no field may stand there
twice, each must hold a value of its kind, and every other member is passed over.  An array is read
by its items, in the order of the fields.  Nothing else is read as a record, and the value of the
record is put together from what each of its fields holds.
-/

namespace GameCatalog.Json

variable {Value Other : Type}

theorem map_eq_ok_iff {outcome : Except Fault Value} {function : Value → Other} {result : Other} :
    outcome.map function = .ok result ↔ ∃ value, outcome = .ok value ∧ function value = result := by
  cases outcome <;> simp [Except.map]

namespace Decoder

variable {decoder : Decoder Value} {reading : Reading}

/-- The octets hold the value that was read, and blanks around it. -/
def Holds (octets : Bytes) (reading : Reading) : Prop :=
  ∃ rest, Reading.ofOctets octets = (reading, .ok rest) ∧ Reading.skipBlanks rest = []

theorem run_eq_ok_iff {octets : Bytes} {value : Value} :
    decoder.run octets = .ok value ↔
      ∃ reading, Holds octets reading ∧ decoder reading = .ok value := by
  unfold run Holds
  rcases read : Reading.ofOctets octets with ⟨reading, rest⟩
  cases decoded : decoder reading with
  | error fault => simp [bind, Except.bind, decoded]
  | ok other =>
      cases rest with
      | error fault => simp [bind, Except.bind, decoded]
      | ok rest =>
          by_cases blank : Reading.skipBlanks rest = [] <;>
            simp [bind, Except.bind, decoded, blank, pure, Except.pure]

end Decoder

namespace Record

variable {record : Record Value} {value : Value}
  {fields : List (String × Decoder Unit)} {found named result : Found}
  {members : List (Reading × Reading)}

def Named (members : List (Reading × Reading)) (named : Found) : Prop :=
  List.Forall₂ (fun member entry => Reading.memberName member = .ok entry.1 ∧
    member.2 = entry.2) members named

def taken (fields : List (String × Decoder Unit)) (named : Found) : Found :=
  named.filter fun entry => (fields.lookup entry.1).isSome

def Passes (passOver : Reading → Option Fault) (fields : List (String × Decoder Unit))
    (entry : String × Reading) : Prop :=
  match fields.lookup entry.1 with
  | some check => check entry.2 = .ok ()
  | none => passOver entry.2 = none

/-- The fields that a reading shows. -/
inductive Shows (record : Record Value) : Reading → Found → Prop where
  | object {members : List (Reading × Reading)} {named : Found} (readable : Named members named)
      (passes : ∀ entry ∈ named, Passes Reading.ending record.fields entry)
      (once : ((taken record.fields named).map Prod.fst).Nodup) :
      Shows record (.object members none) (taken record.fields named)
  | array {items : List Reading} (fits : items.length ≤ record.fields.length)
      (passes : ∀ entry ∈ record.fields.zip items, entry.1.2 entry.2 = .ok ()) :
      Shows record (.array items none) ((record.fields.map Prod.fst).zip items)

section Members

variable {passOver : Reading → Option Fault}

end Members

section Items

variable {items : List Reading} {ending : Option Fault}

end Items

section Build

variable {name : String} {decoder : Decoder Value}

end Build

end Record

end GameCatalog.Json
