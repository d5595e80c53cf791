/-
  ServiceHost.Http.ApiError — the errors the host itself answers with, as JSON bodies of a
  code and a message.
-/

import ServiceHost.Document.Json
import ServiceHost.Http.Message

namespace ServiceHost.Http

structure ApiError where
  status : Nat
  code : String
  message : String
  deriving DecidableEq, Repr

namespace ApiError

def notFound (uri : Uri) : ApiError := ⟨404, "not_found", "URL doesn't exist: " ++ uri.target?.getD uri.path⟩

def forbidden (message : String) : ApiError := ⟨403, "forbidden", message⟩

def notSupported (message : String) : ApiError := ⟨501, "not_supported", message⟩

def unavailable (message : String) : ApiError := ⟨503, "unavailable", message⟩

def toDocument (e : ApiError) : Document := .table [("code", .text e.code), ("message", .text e.message)]

def response (e : ApiError) : Response := .json e.status e.toDocument.toJson

end ApiError

end ServiceHost.Http
