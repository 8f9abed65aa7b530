/-
Writing is the way back from reading.

A document can be read in many forms: members in any order and some that nobody
knows, nulls for what is missing, lists and tables that are empty or left out, times
of other clocks and with fractions of a second. Reading makes one object of all these
forms. Whatever was read is written in one form, and that form is read as the same
object and written as the same value again (`written_objects_are_read_back`). So an
object that goes through the operator's hands keeps everything that the operator
reads of it; what is lost on the way is lost by the first reading, as the fraction of
a second is.

That an object read from anywhere is read back from its written form needs nothing of
where it was read: it holds of every object there is (`Object.survives`), since an
object cannot be built that is not well-formed.
-/
import SharedGateway.Proofs.Codec.Objects

namespace SharedGateway

open Json (Document)

namespace Object

variable {σ : Type} [Spec σ]

/-- The written form is read again, with nothing lost, and written as it was. -/
def Survives (o : Object σ) : Prop :=
  ∃ again : Object σ, Object.ofJson? o.toJson = some again
    ∧ again.spec = o.spec ∧ again.metadata = o.metadata ∧ again.toJson = o.toJson

/-- Every object is read back from its written form, so none is lost by writing it. -/
theorem survives [LawfulSpec σ] (o : Object σ) : o.Survives :=
  ⟨o, o.ofJson?_toJson, rfl, rfl, rfl⟩

end Object

/-- A fraction of a second that follows a written time is read over. -/
theorem Timestamp.read?_fraction (t : Timestamp) {parts : List Char} (nonempty : parts ≠ [])
    (digits : ∀ c ∈ parts, c.isDigit = true) :
    Timestamp.read? (.str (t.clock ++ String.ofList ('.' :: parts ++ ['Z'])))
      = Timestamp.read? t.toJson.document := by
  have back : Timestamp.read? t.toJson.document = some t := Timestamp.readsBack.read_write t
  rw [back, Timestamp.read?, Document.text?, Option.bind_some]
  exact t.ofText?_fraction nonempty digits

/-- What was read from any document is read back from its written form, for both
kinds, and every specification is. A time counts to the second. -/
theorem written_objects_are_read_back :
    (∀ (d : Document) (route : Route), Object.read? d = some route → route.Survives)
    ∧ (∀ (d : Document) (gateway : Gateway), Object.read? d = some gateway → gateway.Survives)
    ∧ (∀ spec : RouteSpec, RouteSpec.read? spec.toJson.document = some spec)
    ∧ (∀ spec : GatewaySpec, GatewaySpec.read? spec.toJson.document = some spec)
    ∧ ∀ (t : Timestamp) (parts : List Char), parts ≠ [] → (∀ c ∈ parts, c.isDigit = true) →
      Timestamp.read? (.str (t.clock ++ String.ofList ('.' :: parts ++ ['Z'])))
        = Timestamp.read? t.toJson.document := by
  refine ⟨fun d route _ => route.survives, fun d gateway _ => gateway.survives,
    RouteSpec.readsBack.read_write, GatewaySpec.readsBack.read_write, ?_⟩
  exact fun t parts nonempty digits => t.read?_fraction nonempty digits

/-- A gateway as somebody else might write it: in another order, with a null, empty
lists and tables, unknown members and a time of another clock. -/
def weathered : Document :=
  .object [
    ("spec", .object [
      ("addresses", .list []),
      ("infrastructure", .object []),
      ("listeners", .list [.object [
        ("tls", .object [("certificateRefs", .list []), ("mode", .str "Passthrough")]),
        ("protocol", .str "TLS"),
        ("port", .int 443),
        ("name", .str "edge")]]),
      ("gatewayClassName", .str "eg")]),
    ("metadata", .object [
      ("labels", .null),
      ("finalizers", .list []),
      ("creationTimestamp", .str "2024-05-01T01:30:00.250+02:00"),
      ("annotations", .object []),
      ("namespace", .str "infra"),
      ("name", .str "edge")])]

/-- The gateway that the document says. -/
def weathered.gateway : Gateway where
  metadata := {
    name := some "edge"
    ns := some "infra"
    annotations := some .empty
    finalizers := some []
    creationTimestamp := some time }
  spec := {
    className := "eg"
    listeners := [{
      name := "edge"
      port := 443
      protocol := "TLS"
      tls := some { mode := some .passthrough } }]
    infrastructure := some {} }
where
  time : Timestamp := ⟨⟨2024, 4, 30, by decide⟩, 23, 30, 0, by decide, by decide⟩

/-- A route with rules that are not looked at, and what it is read as. -/
def ruled : Document × Route where
  fst := .object [
    ("metadata", .object [("name", .str "web"), ("generation", .int 3)]),
    ("spec", .object [
      ("rules", .list [.object []]),
      ("parentRefs", .list [.object [("name", .str "edge"), ("namespace", .null)]]),
      ("hostnames", .list [])])]
  snd := {
    metadata := { name := some "web", generation := some 3 }
    spec := { parents := [{ name := "edge" }] } }

/-- Both are read, and survive; and the gateway's time may have a fraction. -/
theorem weathered_objects_are_read_back :
    (Object.read? ruled.1 = some ruled.2 ∧ ruled.2.Survives)
    ∧ (Object.read? weathered = some weathered.gateway ∧ weathered.gateway.Survives)
    ∧ Timestamp.read? (.str "2024-04-30T23:30:00.250Z")
      = Timestamp.read? weathered.gateway.time.toJson.document := by
  obtain ⟨routes, gateways, -, -, times⟩ := written_objects_are_read_back
  have route : Object.read? ruled.1 = some ruled.2 := by decide +kernel
  have gateway : Object.read? weathered = some weathered.gateway := by decide +kernel
  refine ⟨⟨route, routes _ _ route⟩, ⟨gateway, gateways _ _ gateway⟩, ?_⟩
  refine times weathered.gateway.time ['2', '5', '0'] (List.cons_ne_nil _ _) fun c digit => ?_
  simp only [List.mem_cons, List.not_mem_nil, or_false] at digit
  obtain rfl | rfl | rfl := digit <;> rfl

end SharedGateway
