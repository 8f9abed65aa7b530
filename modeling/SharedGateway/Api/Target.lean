/-
Request targets: the path and query of a request to the API server, and which
texts can stand there. Names go into a path as they are; a text with a
character that no target may hold makes no request at all.
-/
import SharedGateway.Object
import SharedGateway.Text.FormEncoded

namespace SharedGateway.Api

-- ============================================================ collections

/-- The path of a kind's objects in one namespace, or in all of them. -/
def collection (kind : Kind) (ns : Option String) : String :=
  let scope :=
    match ns with
    | some ns => "/namespaces/" ++ ns
    | none => ""
  "/apis/" ++ apiVersion ++ scope ++ "/" ++ kind.plural

/-- The query that applies by force in the name of a field manager. -/
def applyQuery (manager : String) : String :=
  "&force=true&fieldManager=" ++ Text.formEncoded manager

-- ============================================================= validity

/-- The longest target, in bytes. -/
def maxTargetLength : Nat := 65534

/-- Is the character visible? Anything above ASCII counts as that. -/
def isVisible (c : Char) : Bool :=
  0x20 < c.toNat && c.toNat ≠ 0x7F

/-- May the character stand in a path? Quotes and braces may, though strictly
they should be encoded. -/
def isPathChar (c : Char) : Bool :=
  isVisible c && !(['#', '<', '>', '?', Char.ofNat 0x60].contains c)

/-- May the character stand in a query? -/
def isQueryChar (c : Char) : Bool :=
  isVisible c && !(['"', '#', '<', '>'].contains c)

/-- The target that a text gives: a path and perhaps a query, without the
fragment that a number sign would start. -/
def target? (text : String) : Option String :=
  let sent := text.toList.takeWhile (· ≠ '#')
  let path := sent.takeWhile (· ≠ '?')
  let query := (sent.dropWhile (· ≠ '?')).drop 1
  if text.utf8ByteSize ≤ maxTargetLength && path.all isPathChar && query.all isQueryChar then
    some (String.ofList sent)
  else none

end SharedGateway.Api
