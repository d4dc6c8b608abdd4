import CatLitterBox.Console.Command
import CatLitterBox.Console.RingBuffer

open temporal text

namespace catbox.console

def PARSE_BUF_SIZE : Nat := 128

def CR : UInt8 := 13
def LF : UInt8 := 10
def DOLLAR : UInt8 := 36

structure Parser where
  parse_buf : Vector UInt8 PARSE_BUF_SIZE
  parse_idx : Nat

/-- The variables of `uart_process` and what the commands act on. -/
structure Console where
  rx_ring : RingBuffer
  parser : Parser
  system : System

/-- What `uart_parser` does with a byte: the indices at which it stores into `parse_buf`, and
the string that it executes. -/
structure Popped where
  ch : UInt8
  stores : List Nat
  command : Option Bytes

/-- An empty string is not executed. -/
def executed (cmd : Bytes) : Option Bytes := if cmd = [] then none else some cmd

/-- The body of the loop of `uart_parser`. -/
def parse_char (c : Console) (ch : UInt8) : Console × Popped :=
  let parse_buf := c.parser.parse_buf
  let parse_idx := c.parser.parse_idx
  if ch = DOLLAR then ({ c with parser := ⟨parse_buf, 0⟩ }, ⟨ch, [], none⟩)
  else if parse_idx < PARSE_BUF_SIZE - 1 then
    let parse_buf := parse_buf.setIfInBounds parse_idx ch
    if ch = CR ∨ ch = LF then
      let parse_buf := parse_buf.setIfInBounds (parse_idx + 1) 0
      let cmd := cstring parse_buf.toList
      ({ c with parser := ⟨parse_buf, 0⟩, system := execute cmd c.system },
        ⟨ch, [parse_idx, parse_idx + 1], executed cmd⟩)
    else ({ c with parser := ⟨parse_buf, parse_idx + 1⟩ }, ⟨ch, [parse_idx], none⟩)
  else ({ c with parser := ⟨parse_buf, 0⟩ }, ⟨ch, [], none⟩)

/-- `uart_parser` with fuel for its loop. It returns at a `$`, and not at all from a reset. -/
def uart_parser_loop : Nat → Console → Console × List Popped
  | 0, c => (c, [])
  | fuel + 1, c =>
    match RingBuffer_Pop c.rx_ring with
    | (_, none) => (c, [])
    | (rx_ring, some ch) =>
      let (c, popped) := parse_char { c with rx_ring } ch
      if ch = DOLLAR ∨ c.system.restarting then (c, [popped])
      else
        let (c, rest) := uart_parser_loop fuel c
        (c, popped :: rest)

def uart_parse (c : Console) : Console × List Popped := uart_parser_loop RX_BUF_SIZE c

/-- What a turn of `uart_process` reads and pops. -/
structure Turn where
  data : Bytes
  popped : List Popped

/-- A turn of the loop of `uart_process`, with the bytes that `uart_read_bytes` returns. After
a reset there is none. -/
def uart_process (c : Console) (data : Bytes) : Console × Turn :=
  if c.system.restarting then (c, ⟨[], []⟩)
  else
    let (c, popped) := uart_parse { c with rx_ring := data.foldl RingBuffer_Push c.rx_ring }
    (c, ⟨data, popped⟩)

/-- After `uart_bridge_init`. -/
def Console.boot (buffer : Vector UInt8 RX_BUF_SIZE) (system : System) : Console where
  rx_ring := .init buffer
  parser := ⟨.replicate PARSE_BUF_SIZE 0, 0⟩
  system := system

/-- The bytes of an unfinished line. -/
def Parser.pending (p : Parser) : Bytes := p.parse_buf.toList.take p.parse_idx

/-- Both indices of the ring buffer and that of the parser are in range. -/
structure Console.Indexed (c : Console) : Prop where
  rx_ring : c.rx_ring.Indexed
  parse_idx : c.parser.parse_idx < PARSE_BUF_SIZE

end catbox.console
