import ReceiptFleet.Text.Gbk
import ReceiptFleet.Text.Utf8
import ReceiptFleet.Wire.Command

/-!
The bytes as they are sent. The printer is put into Chinese mode around the whole job and again
after every initialization, which leaves that mode; UTF-8 text becomes GBK; and the euro sign, which
the printer has in another character table, is sent outside of Chinese mode. Bytes below 80 pass
unchanged.
-/

namespace ReceiptFleet.Wire

/-- Turns Chinese mode on. -/
def chineseOn : List UInt8 := [0x1C, 0x26]

/-- Turns Chinese mode off. -/
def chineseOff : List UInt8 := [0x1C, 0x2E]

/-- Selects GBK as the Chinese character set. -/
def selectGbk : List UInt8 := [0x1C, 0x43, 0x01]

/-- The command that initializes the printer, and with that leaves Chinese mode. -/
def reset : List UInt8 := [0x1B, 0x40]

/-- The euro sign: out of Chinese mode, character table 19, its place there, and back. -/
def euroBytes : List UInt8 := chineseOff ++ [0x1B, 0x74, 19, 0xD5] ++ chineseOn

/-- A character of text as it is sent in Chinese mode. -/
def sentChar (c : Char) : List UInt8 :=
  if c = Text.Gbk.euro then euroBytes else Text.Gbk.encodeChar c

/-- A run of bytes from 80 up, read as UTF-8 and sent as GBK. -/
def sentRun (run : List UInt8) : List UInt8 := (Text.utf8Lossy run).flatMap sentChar

/-- The bytes as they are sent, where `run` holds the bytes from 80 up just before, last first. -/
def sentFrom (run : List UInt8) : List UInt8 → List UInt8
  | [] => sentRun run.reverse
  | 0x1B :: 0x40 :: rest => sentRun run.reverse ++ reset ++ chineseOn ++ sentFrom [] rest
  | b :: rest =>
    if b < 0x80 then sentRun run.reverse ++ b :: sentFrom [] rest else sentFrom (b :: run) rest

/-- The bytes between the prologue and the epilogue of a job. -/
def body (bytes : List UInt8) : List UInt8 := sentFrom [] bytes

/-- What is sent before a job. -/
def prologue : List UInt8 := chineseOn ++ selectGbk

/-- What is sent after a job. -/
def epilogue : List UInt8 := chineseOff

/-- Bytes of UTF-8 text and commands as they are sent. -/
def chinese (bytes : List UInt8) : List UInt8 := prologue ++ body bytes ++ epilogue

end ReceiptFleet.Wire

namespace ReceiptFleet.Job

/-- The commands of a job, with UTF-8 text. -/
def rawBytes (job : Job) : List UInt8 := Wire.commands job.instructions

/-- The job as it is sent to a printer. -/
def wireBytes (job : Job) : List UInt8 := Wire.chinese job.rawBytes

end ReceiptFleet.Job
