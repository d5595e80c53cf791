/-
  ServiceHost.Status — the built-in service that tells about the host itself: who it is
  and how long it runs, its version, and the members of its cluster.

  Once the host is gone it answers that the server is shutting down.
-/

import ServiceHost.Http.ApiError
import ServiceHost.Service

namespace ServiceHost.Status

open ServiceHost.Http

def serviceName : String := "status"

def serverPath : String := "/v1/status/server"

def versionPath : String := "/v1/status/version"

def nodesPath : String := "/v1/status/nodes"

def shuttingDown : ApiError := .unavailable "server is shutting down"

def asking (answer : HostView → Endpoint) : Handler :=
  { answer := fun call =>
      match call.host? with
      | some host => answer host call
      | none => pure shuttingDown.response }

def serverDocument (h : HostView) : Document :=
  .table
    [("name", .text h.name), ("version", .text h.version), ("role", .text h.role), ("host", .text h.hostName),
     ("node", .text h.nodeName), ("port", .text h.port), ("local_ip", .text h.localIp),
     ("started_at", .text h.startedAt), ("uptime_secs", .ofNat h.uptimeSecs)]

def versionDocument (h : HostView) : Document := .table [("version", .text h.version)]

def memberDocument (m : ClusterMember) : Document :=
  .table [("id", .text m.id), ("name", .text m.name), ("peer_urls", .texts m.peerUrls)]

def answerJson (d : Document) : Response := .json 200 d.toJson

/-- The members of the cluster, or why there are none to tell. -/
def nodes (h : HostView) : Endpoint := fun call =>
  match h.members with
  | .ok members => pure (answerJson (.list (members.map memberDocument)))
  | .error .notSupported => pure (ApiError.notSupported ClusterError.notSupported.message).response
  | .error e => do
    Run.log call.sink .warn .status "Cluster query failed" [("error", .bare e.message)]
    return (ApiError.unavailable e.message).response

def routes : List Route :=
  [⟨serverPath, .only "GET", asking fun h _ => pure (answerJson (serverDocument h))⟩,
   ⟨versionPath, .only "GET", asking fun h _ => pure (answerJson (versionDocument h))⟩,
   ⟨nodesPath, .only "GET", asking nodes⟩]

def service (serial : Nat) : Service := { name := serviceName, serial, routes }

end ServiceHost.Status
