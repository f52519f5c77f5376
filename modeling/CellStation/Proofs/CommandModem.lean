import CellStation.Radio.Handshake
import CellStation.Serial.Link

/-!
# A modem that answers commands

A serial line with a modem at its end. The modem takes text only while the line is at its
rate; other text is lost. The escape text enters command mode and is answered, and so is
every command given in command mode. The command for the faster rate is answered at the old
one. In API mode the modem only collects what it is sent.
-/

namespace CellStation

/-- A modem that answers commands, with the line to it. -/
structure CommandModem where
  /-- The rate at which the modem listens. -/
  modemBaud : UInt32
  /-- The rate of the line. -/
  lineBaud : UInt32
  commandMode : Bool
  apiMode : Bool
  /-- The command being received. -/
  command : List UInt8
  /-- Bytes on their way to the host. -/
  toHost : List UInt8
  /-- Bytes received in API mode. -/
  collected : List UInt8
  writable : Nat
  deriving DecidableEq, Repr

namespace CommandModem

/-- A modem that listens at a rate, on a line whose rate has not been set. -/
def atRate (baud : UInt32) : CommandModem where
  modemBaud := baud
  lineBaud := 0
  commandMode := false
  apiMode := false
  command := []
  toHost := []
  collected := []
  writable := 64

/-- Send text to the host. -/
def reply (modem : CommandModem) (text : List UInt8) : CommandModem :=
  { modem with toHost := modem.toHost ++ text }

/-- Carry out a command, given without its end. -/
def execute (modem : CommandModem) (command : List UInt8) : CommandModem :=
  if command = ascii ['A', 'T'] then modem.reply okReply
  else if command = ascii ['A', 'T', 'B', 'D', '7', ',', 'A', 'C'] then
    { modem.reply okReply with modemBaud := apiBaud }
  else if command = ascii ['A', 'T', 'A', 'P', '1', ',', 'C', 'N'] then
    { modem.reply (okReply ++ okReply) with commandMode := false, apiMode := true }
  else modem.reply (ascii ['E', 'R', 'R', 'O', 'R', '\r'])

/-- Take one byte of text. -/
def takeByte (modem : CommandModem) (byte : UInt8) : CommandModem :=
  let command := modem.command ++ [byte]
  if command = escapeText then { modem with command := [], commandMode := true }.reply okReply
  else if byte = '\r'.toUInt8 then
    let modem := { modem with command := [] }
    if modem.commandMode then modem.execute command.dropLast else modem
  else { modem with command }

/-- Take what was written to the line. -/
def take (modem : CommandModem) (bytes : List UInt8) : CommandModem :=
  if modem.lineBaud ≠ modem.modemBaud then modem
  else if modem.apiMode then { modem with collected := modem.collected ++ bytes }
  else bytes.foldl takeByte modem

instance : SerialLink CommandModem where
  setBaud baud modem := (.ok (), { modem with lineBaud := baud })
  available modem := (.ok modem.toHost.length, modem)
  read size modem :=
    (.ok (modem.toHost.take size), { modem with toHost := modem.toHost.drop size })
  write bytes modem := (.ok bytes.length, modem.take bytes)
  writable modem := (modem.writable, modem)

end CommandModem

end CellStation
