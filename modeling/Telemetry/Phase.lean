/-
The points of a request's lifecycle.

On its way to a response a request obtains a connection, perhaps after a name lookup,
a connection attempt and a handshake, and is then written out.  Each of these points
is a phase with a name, and the phases have a fixed order: it is the order in which
they are listed everywhere, and a phase's index is its place in that list.
-/
import Telemetry.Text.Column

namespace Telemetry

/-- A point in a request's connection lifecycle. -/
inductive Phase
  /-- A connection was obtained, new or from the idle pool. -/
  | gotConn
  /-- A connection was returned to the idle pool. -/
  | putIdleConn
  /-- The first byte of the response headers was read. -/
  | gotFirstResponseByte
  /-- The server asked for the body with an interim response. -/
  | got100Continue
  | dnsStart
  | dnsDone
  /-- A connection attempt began. -/
  | connectStart
  /-- A connection attempt ended. -/
  | connectDone
  | tlsHandshakeStart
  | tlsHandshakeDone
  /-- The request headers were written. -/
  | wroteHeaders
  /-- The client waits to be asked for the body. -/
  | wait100Continue
  /-- The request was written to its end. -/
  | wroteRequest
deriving DecidableEq

namespace Phase

/-- Every phase, in order. -/
def all : List Phase :=
  [gotConn, putIdleConn, gotFirstResponseByte, got100Continue, dnsStart, dnsDone, connectStart,
   connectDone, tlsHandshakeStart, tlsHandshakeDone, wroteHeaders, wait100Continue, wroteRequest]

/-- The phases that may end in failure. -/
def fallible : List Phase := [putIdleConn, connectDone, tlsHandshakeDone]

/-- The phase's place in the order. -/
def index : Phase → Fin 13
  | gotConn => 0
  | putIdleConn => 1
  | gotFirstResponseByte => 2
  | got100Continue => 3
  | dnsStart => 4
  | dnsDone => 5
  | connectStart => 6
  | connectDone => 7
  | tlsHandshakeStart => 8
  | tlsHandshakeDone => 9
  | wroteHeaders => 10
  | wait100Continue => 11
  | wroteRequest => 12

/-- The phase's name, which is also its value of the event label. -/
def name : Phase → String
  | gotConn => "got_conn"
  | putIdleConn => "put_idle_conn"
  | gotFirstResponseByte => "got_first_response_byte"
  | got100Continue => "got_100_continue"
  | dnsStart => "dns_start"
  | dnsDone => "dns_done"
  | connectStart => "connect_start"
  | connectDone => "connect_done"
  | tlsHandshakeStart => "tls_handshake_start"
  | tlsHandshakeDone => "tls_handshake_done"
  | wroteHeaders => "wrote_headers"
  | wait100Continue => "wait_100_continue"
  | wroteRequest => "wrote_request"

/-- The phase as log records show it. -/
def title : Phase → String
  | gotConn => "GotConn"
  | putIdleConn => "PutIdleConn"
  | gotFirstResponseByte => "GotFirstResponseByte"
  | got100Continue => "Got100Continue"
  | dnsStart => "DnsStart"
  | dnsDone => "DnsDone"
  | connectStart => "ConnectStart"
  | connectDone => "ConnectDone"
  | tlsHandshakeStart => "TlsHandshakeStart"
  | tlsHandshakeDone => "TlsHandshakeDone"
  | wroteHeaders => "WroteHeaders"
  | wait100Continue => "Wait100Continue"
  | wroteRequest => "WroteRequest"

/-- The phase of that name. -/
def ofName? (name : String) : Option Phase := all.find? fun phase => phase.name == name

/-- The phase's name laid out in a column. -/
def layout (phase : Phase) (column : Text.Column) : String := column.layout phase.name

/-! ### List, index and spellings agree -/

theorem mem_all (phase : Phase) : phase ∈ all := by cases phase <;> decide

theorem map_index_all : all.map index = List.finRange 13 := by decide

theorem index_injective {p q : Phase} (h : p.index = q.index) : p = q := by
  revert h; cases p <;> cases q <;> decide

/-- A phase is found again by its name, so no two phases have the same. -/
theorem ofName?_name (phase : Phase) : ofName? phase.name = some phase := by
  cases phase <;> decide

/-- Names and titles are the same words: only the case and the underscores differ. -/
theorem title_name (phase : Phase) :
    phase.title.toList.map Char.toLower = phase.name.toList.filter (· ≠ '_') := by
  cases phase <;> decide

end Phase

end Telemetry
