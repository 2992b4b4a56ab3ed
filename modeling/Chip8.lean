import Chip8.Folder
import Chip8.Main
import Chip8.Proofs.History
import Chip8.Session.Script
import Chip8.Proofs.WellFormed
import Chip8.Proofs.Checked
import Chip8.Proofs.DebugMode
import Chip8.Proofs.HeldKey
import Chip8.Proofs.KeyDelivery
import Chip8.Proofs.KeyWait
import Chip8.Proofs.ModeHistory
import Chip8.Proofs.SpareEvents
import Chip8.Proofs.MachineRuns
import Chip8.Proofs.WrappedCounter
import Chip8.Proofs.CallStack
import Chip8.Proofs.EventStream
import Chip8.Proofs.Turns
import Chip8.Proofs.Timers
import Chip8.Proofs.ProgramListing
import Chip8.Proofs.UnseenKeys
import Chip8.Proofs.DeadState
import Chip8.Proofs.Disassembly
import Chip8.Proofs.SpriteHits
import Chip8.Proofs.GlyphPixels
import Chip8.Proofs.HexText
import Chip8.Proofs.Mnemonics
import Chip8.Proofs.DrawOrder
import Chip8.Proofs.LitPixels
import Chip8.Proofs.DrawInstruction
import Chip8.Proofs.Decoding
import Chip8.Proofs.Arithmetic
import Chip8.Proofs.StackFaults
import Chip8.Proofs.Footprint
import Chip8.Proofs.ControlFlow
import Chip8.Proofs.StoredRegisters
import Chip8.Proofs.FontTable
import Chip8.Proofs.KeyHistory
import Chip8.Proofs.KeyStream
import Chip8.Proofs.Reloading
import Chip8.Proofs.ProgramPages
import Chip8.Proofs.ProgramMarker
import Chip8.Proofs.ProgramRows
import Chip8.Proofs.ConsoleMessages
import Chip8.Proofs.DisassemblyText
import Chip8.Proofs.HardwareText
import Chip8.Proofs.FontTokens
import Chip8.Proofs.FontMessages
