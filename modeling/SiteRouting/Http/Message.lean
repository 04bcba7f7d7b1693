import SiteRouting.Data.Json.Writer
import SiteRouting.Http.Request
import SiteRouting.Text.Numeral

namespace SiteRouting.Http

def headerField? (line : String) : Option (String × String) :=
  (Text.splitFirst? ':' line).map fun (name, value) => (name, Text.trim value)

/-- The request of a head, given as its lines: a line with method, target and
version, and then the header lines. -/
def Request.ofHead? : List String → Option Request
  | [] => none
  | first :: headers =>
    match Text.splitAt ' ' first with
    | [method, target, _] => some { method, target, headers := headers.filterMap headerField? }
    | _ => none

def Request.bodySize (request : Request) : Nat :=
  ((request.text? "content-length").bind (Text.numeral? 0xFFFFFFFF)).getD 0

def Response.render (response : Response) : String :=
  let body := (response.body.map Data.Json.pretty).getD ""
  let status := response.status
  let size := body.utf8ByteSize
  let identifier := match response.requestId with
    | some value => [s!"x-request-id: {value}"]
    | none => []
  let head := [s!"HTTP/1.1 {status}", "content-type: application/json", s!"content-length: {size}"]
  "\r\n".intercalate (head ++ identifier ++ ["", body])

end SiteRouting.Http
