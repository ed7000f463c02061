import MeteredDownload.Agent
import MeteredDownload.Choices

/-!
# Clients

A client is who asks: it has a name for itself and roots that it trusts.
-/
set_option autoImplicit false
namespace MeteredDownload.Http

structure Client where
  userAgent : String
  trust : Trust
  deriving DecidableEq, Repr

structure Downloader where
  client : Client
  defaults : Choices

structure Request where
  url : String
  userAgent : String
  deriving DecidableEq, Repr

end MeteredDownload.Http
