import Chip8.Main
import Chip8.Pacing.FrameSlot
import Chip8.Proofs.CallStack
import Chip8.Proofs.Cycle
import Chip8.Proofs.Decoding
import Chip8.Proofs.Display
import Chip8.Proofs.Footprint
import Chip8.Proofs.Frame
import Chip8.Proofs.FatalFault
import Chip8.Proofs.FrameExchange
import Chip8.Proofs.KeyDelivery
import Chip8.Proofs.Keypad
import Chip8.Proofs.Memory
import Chip8.Proofs.Refusal
import Chip8.Proofs.ReturnList
import Chip8.Proofs.Run
import Chip8.Proofs.Step
import Chip8.Proofs.Subroutine
import Chip8.Proofs.Tracing
import Chip8.Proofs.Timers
import Chip8.Proofs.ConfigReport
import Chip8.Proofs.Reordering
import Chip8.Proofs.RandomStream
import Chip8.Proofs.Shutdown
import Chip8.Proofs.Rounding
import Chip8.Proofs.Usable
import Chip8.Proofs.Sprite
import Chip8.Proofs.Drawing
import Chip8.Proofs.NextAddress
import Chip8.Proofs.AssemblyText
import Chip8.Proofs.Handlers
import Chip8.Proofs.Disassembly
import Chip8.Proofs.Arithmetic
import Chip8.Proofs.Transfer
import Chip8.Proofs.KeyWait
import Chip8.Proofs.Loading
import Chip8.Proofs.Picture
import Chip8.Proofs.CompletedCycle
import Chip8.Proofs.TickCount
import Chip8.Proofs.CycleRate
import Chip8.Proofs.LogHistory
import Chip8.Proofs.FieldSplit
import Chip8.Proofs.OverrideTree
import Chip8.Proofs.PlainWord
import Chip8.Proofs.Precedence
