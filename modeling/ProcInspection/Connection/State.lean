namespace ProcInspection

/-!
Protocols and connection states.

Both protocols share one state column.  A datagram socket shows there whether
it has a fixed peer: established if so, closed if not.
-/

inductive Protocol where
  | tcp
  | udp
  deriving DecidableEq

namespace Protocol

def all : List Protocol :=
  [.tcp, .udp]

/-- The name in documents. -/
def name : Protocol -> String
  | .tcp => "tcp"
  | .udp => "udp"

/-- The word in tables and messages. -/
def text : Protocol -> String
  | .tcp => "TCP"
  | .udp => "UDP"

end Protocol

inductive ConnectionState where
  | established
  | synSent
  | synReceived
  | finWait1
  | finWait2
  | timeWait
  | close
  | closeWait
  | lastAck
  | listen
  | closing
  | unknown
  deriving DecidableEq

namespace ConnectionState

def all : List ConnectionState :=
  [.established, .synSent, .synReceived, .finWait1, .finWait2, .timeWait, .close,
    .closeWait, .lastAck, .listen, .closing, .unknown]

/-- The states are numbered from one; any other number is unknown. -/
def ofNumber (number : Nat) : ConnectionState :=
  match number with
  | 1 => .established
  | 2 => .synSent
  | 3 => .synReceived
  | 4 => .finWait1
  | 5 => .finWait2
  | 6 => .timeWait
  | 7 => .close
  | 8 => .closeWait
  | 9 => .lastAck
  | 10 => .listen
  | 11 => .closing
  | _ => .unknown

def text : ConnectionState -> String
  | .established => "ESTABLISHED"
  | .synSent => "SYN_SENT"
  | .synReceived => "SYN_RECV"
  | .finWait1 => "FIN_WAIT1"
  | .finWait2 => "FIN_WAIT2"
  | .timeWait => "TIME_WAIT"
  | .close => "CLOSE"
  | .closeWait => "CLOSE_WAIT"
  | .lastAck => "LAST_ACK"
  | .listen => "LISTEN"
  | .closing => "CLOSING"
  | .unknown => "UNKNOWN"

end ConnectionState
end ProcInspection
