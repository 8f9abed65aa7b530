/-
Listeners of a gateway. A listener is whatever a gateway may carry; the one
that is built here terminates HTTPS for a single hostname.
-/
import SharedGateway.Json.Decode
import SharedGateway.Json.Encode

namespace SharedGateway

open Json (Document)

-- ================================================================ parts

/-- What a listener does with TLS. -/
inductive TlsMode where
  | terminate
  | passthrough
  deriving DecidableEq, Repr

namespace TlsMode

/-- The mode as the API writes it. -/
def toText : TlsMode → String
  | .terminate => "Terminate"
  | .passthrough => "Passthrough"

/-- Reads a mode. -/
def read? : Document → Option TlsMode :=
  Document.choice? [("Terminate", .terminate), ("Passthrough", .passthrough)]

end TlsMode

/-- A reference to the secret that holds a certificate. -/
structure SecretRef where
  name : String
  ns : Option String := none
  group : Option String := none
  kind : Option String := none
  deriving DecidableEq, Repr

namespace SecretRef

/-- The members of the record in their order. -/
def names : List String :=
  ["group", "kind", "name", "namespace"]

/-- Reads a secret reference. -/
def read? (d : Document) : Option SecretRef := do
  let members ← d.record? names
  let group ← Document.optional? members "group" Document.text?
  let kind ← Document.optional? members "kind" Document.text?
  let name ← Document.required? members "name" Document.text?
  let ns ← Document.optional? members "namespace" Document.text?
  some { name, ns, group, kind }

/-- The written form. -/
def toJson (s : SecretRef) : Json :=
  Json.object [
    ("group", s.group.map .str),
    ("kind", s.kind.map .str),
    ("name", some (.str s.name)),
    ("namespace", s.ns.map .str)]

end SecretRef

/-- The TLS settings of a listener. -/
structure Tls where
  mode : Option TlsMode := none
  certificates : List SecretRef := []
  deriving DecidableEq, Repr

namespace Tls

/-- The members of the record in their order. -/
def names : List String :=
  ["mode", "certificateRefs"]

/-- Reads TLS settings. -/
def read? (d : Document) : Option Tls := do
  let members ← d.record? names
  let mode ← Document.optional? members "mode" TlsMode.read?
  let certificates ←
    Document.defaulted? members "certificateRefs" [] (Document.list? SecretRef.read?)
  some { mode, certificates }

/-- The written form. -/
def toJson (t : Tls) : Json :=
  Json.object [
    ("certificateRefs", Json.listOrAbsent (t.certificates.map SecretRef.toJson)),
    ("mode", t.mode.map fun mode => .str mode.toText)]

end Tls

/-- The namespaces whose routes may attach to a listener. -/
inductive RouteSource where
  | all
  | same
  | selector
  deriving DecidableEq, Repr

namespace RouteSource

/-- The choice as the API writes it. -/
def toText : RouteSource → String
  | .all => "All"
  | .same => "Same"
  | .selector => "Selector"

/-- Reads a choice. -/
def read? : Document → Option RouteSource :=
  Document.choice? [("All", .all), ("Same", .same), ("Selector", .selector)]

end RouteSource

/-- The choice of namespaces for a listener's routes. -/
structure RouteNamespaces where
  source : Option RouteSource := none
  deriving DecidableEq, Repr

namespace RouteNamespaces

/-- The members of the record in their order. -/
def names : List String :=
  ["from"]

/-- Reads a choice of namespaces. -/
def read? (d : Document) : Option RouteNamespaces := do
  let members ← d.record? names
  let source ← Document.optional? members "from" RouteSource.read?
  some { source }

/-- The written form. -/
def toJson (r : RouteNamespaces) : Json :=
  Json.object [("from", r.source.map fun source => .str source.toText)]

end RouteNamespaces

/-- The routes that may attach to a listener. -/
structure AllowedRoutes where
  namespaces : Option RouteNamespaces := none
  deriving DecidableEq, Repr

namespace AllowedRoutes

/-- The members of the record in their order. -/
def names : List String :=
  ["namespaces"]

/-- Reads which routes may attach. -/
def read? (d : Document) : Option AllowedRoutes := do
  let members ← d.record? names
  let namespaces ← Document.optional? members "namespaces" RouteNamespaces.read?
  some { namespaces }

/-- The written form. -/
def toJson (a : AllowedRoutes) : Json :=
  Json.object [("namespaces", a.namespaces.map RouteNamespaces.toJson)]

end AllowedRoutes

-- ============================================================ listeners

/-- A listener of a gateway. -/
structure Listener where
  name : String
  port : Int32
  protocol : String
  hostname : Option String := none
  tls : Option Tls := none
  allowedRoutes : Option AllowedRoutes := none
  deriving DecidableEq, Repr

namespace Listener

/-- The members of the record in their order. -/
def names : List String :=
  ["name", "hostname", "port", "protocol", "tls", "allowedRoutes"]

/-- Reads a listener. -/
def read? (d : Document) : Option Listener := do
  let members ← d.record? names
  let name ← Document.required? members "name" Document.text?
  let hostname ← Document.optional? members "hostname" Document.text?
  let port ← Document.required? members "port" Document.int32?
  let protocol ← Document.required? members "protocol" Document.text?
  let tls ← Document.optional? members "tls" Tls.read?
  let allowedRoutes ← Document.optional? members "allowedRoutes" AllowedRoutes.read?
  some { name, port, protocol, hostname, tls, allowedRoutes }

/-- The written form. -/
def toJson (l : Listener) : Json :=
  Json.object [
    ("allowedRoutes", l.allowedRoutes.map AllowedRoutes.toJson),
    ("hostname", l.hostname.map .str),
    ("name", some (.str l.name)),
    ("port", some (.int l.port.toInt)),
    ("protocol", some (.str l.protocol)),
    ("tls", l.tls.map Tls.toJson)]

-- ================================================================ HTTPS

/-- The secret that holds the certificate of a hostname. -/
def certificateName (hostname : String) : String :=
  hostname ++ "-tls"

/-- The listener that terminates HTTPS for a hostname. The certificate lies in
the namespace of the gateway, and routes of every namespace may attach. -/
def https (hostname gatewayNamespace : String) : Listener where
  name := hostname
  hostname := some hostname
  port := 443
  protocol := "HTTPS"
  tls := some {
    mode := some .terminate
    certificates := [{
      group := some ""
      kind := some "Secret"
      name := certificateName hostname
      ns := some gatewayNamespace }] }
  allowedRoutes := some { namespaces := some { source := some .all } }

end Listener

end SharedGateway
