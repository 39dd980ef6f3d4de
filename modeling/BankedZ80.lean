import BankedZ80.Archive.Bits
import BankedZ80.Archive.Bzip2
import BankedZ80.Archive.Bzip2.Randomized
import BankedZ80.Archive.Crc32
import BankedZ80.Archive.Crc64
import BankedZ80.Archive.Deflate
import BankedZ80.Archive.Fault
import BankedZ80.Archive.Huffman
import BankedZ80.Archive.Lzma.Chunk
import BankedZ80.Archive.Lzma.Context
import BankedZ80.Archive.Lzma.Stream
import BankedZ80.Archive.Lzma.Symbol
import BankedZ80.Archive.Reader
import BankedZ80.Archive.Sha256
import BankedZ80.Archive.Window
import BankedZ80.Archive.XxHash
import BankedZ80.Archive.Xz
import BankedZ80.Archive.Zip
import BankedZ80.Archive.Zip.Directory
import BankedZ80.Archive.Zip.Header
import BankedZ80.Archive.Zip.Layout
import BankedZ80.Archive.Zip.Name
import BankedZ80.Archive.Zstandard
import BankedZ80.Archive.Zstandard.BitStream
import BankedZ80.Archive.Zstandard.Literals
import BankedZ80.Archive.Zstandard.Sequences
import BankedZ80.Archive.Zstandard.StateTable
import BankedZ80.Bundle
import BankedZ80.Bundle.Manifest
import BankedZ80.Bytes
import BankedZ80.CommandLine.Arguments
import BankedZ80.CommandLine.Help
import BankedZ80.CommandLine.Key
import BankedZ80.CommandLine.Run
import BankedZ80.Config
import BankedZ80.Cpu.Arithmetic
import BankedZ80.Cpu.BusProgram
import BankedZ80.Cpu.Core
import BankedZ80.Cpu.Execute
import BankedZ80.Cpu.Instruction
import BankedZ80.Cpu.Processor
import BankedZ80.Devices
import BankedZ80.Disk.Controller
import BankedZ80.Disk.Drive
import BankedZ80.Disk.Unit
import BankedZ80.Engine
import BankedZ80.Error
import BankedZ80.Hbios.Calendar
import BankedZ80.Hbios.Call
import BankedZ80.Hbios.Function
import BankedZ80.Host.Clock
import BankedZ80.Host.FileTree
import BankedZ80.Host.Path
import BankedZ80.Host.Program
import BankedZ80.HostFile
import BankedZ80.Json.Decode
import BankedZ80.Json.Printer
import BankedZ80.Json.Token
import BankedZ80.Json.Value
import BankedZ80.Main
import BankedZ80.Memory
import BankedZ80.Nvram
import BankedZ80.Nvram.BootOption
import BankedZ80.Ports
import BankedZ80.Proofs.Cpu.Timing
import BankedZ80.Session
import BankedZ80.SharedEngine
import BankedZ80.Text.Blank
import BankedZ80.Text.CharSet
import BankedZ80.Text.LowerCase
import BankedZ80.Text.Quoted
import BankedZ80.Text.Unprintable
import BankedZ80.Transfer
import BankedZ80.Uart
import BankedZ80.Word
import BankedZ80.Proofs.Batch.Loops
import BankedZ80.Proofs.Batch.Report
import BankedZ80.Proofs.Batch.Unseen
import BankedZ80.Proofs.Batch.EarlierOutput
import BankedZ80.Proofs.Batch.Split
import BankedZ80.Proofs.Batch.Bookkeeping
import BankedZ80.Proofs.Disk.Paths
import BankedZ80.Proofs.Disk.Sectors
import BankedZ80.Proofs.Disk.Change
import BankedZ80.Proofs.Disk.Log
import BankedZ80.Proofs.History.Action
import BankedZ80.Proofs.History.Step
import BankedZ80.Proofs.History.DiskLog
import BankedZ80.Proofs.History.DiskContents
import BankedZ80.Proofs.Disk.Saving
import BankedZ80.Proofs.History.DirtyFlags
import BankedZ80.Proofs.HostFile.Delivery
import BankedZ80.Proofs.Nvram.BootOption
import BankedZ80.Proofs.Bundle.Assignment
import BankedZ80.Proofs.Bundle.Reading
import BankedZ80.Proofs.Archive.Stored
import BankedZ80.Proofs.Bundle.Install
import BankedZ80.Proofs.Disk.Flags
import BankedZ80.Proofs.Disk.Outline
import BankedZ80.Proofs.Host.Contract
import BankedZ80.Proofs.Host.Files
import BankedZ80.Proofs.Host.Tree
import BankedZ80.Proofs.CommandLine.Start
import BankedZ80.Proofs.CommandLine.SaveDisks
import BankedZ80.Proofs.HostFile.Collection
import BankedZ80.Proofs.Nvram.Record
import BankedZ80.Proofs.Nvram.Codec
import BankedZ80.Proofs.Nvram.Grammar
import BankedZ80.Proofs.History.Calls
import BankedZ80.Proofs.History.BootRecord
import BankedZ80.Proofs.History.Confinement
import BankedZ80.Proofs.Console.Effect
import BankedZ80.Proofs.Console.Input
import BankedZ80.Proofs.Console.Output
import BankedZ80.Proofs.Disk.WellFormed
import BankedZ80.Proofs.Config
import BankedZ80.Proofs.Disk.Slices
import BankedZ80.Proofs.Disk.Letters
import BankedZ80.Proofs.History.DriveLetters
import BankedZ80.Proofs.History.DiskCalls
import BankedZ80.Proofs.History.SliceCounts
import BankedZ80.Proofs.Safety.Checked
import BankedZ80.Proofs.Safety.Memory
import BankedZ80.Proofs.Safety.Sectors
import BankedZ80.Proofs.Safety.Registers
import BankedZ80.Proofs.Safety.Bus
import BankedZ80.Proofs.Safety.Firmware
import BankedZ80.Proofs.Safety.Batch
import BankedZ80.Proofs.Safety.Engine
import BankedZ80.Proofs.Hbios.Refusal
import BankedZ80.Proofs.Hbios.Served
import BankedZ80.Proofs.Hbios.Frame
import BankedZ80.Proofs.Hbios.Run
import BankedZ80.Proofs.Hbios.Transfer
import BankedZ80.Proofs.Cpu.Halting
import BankedZ80.Proofs.History.Rejection
import BankedZ80.Proofs.History.Lifecycle
import BankedZ80.Proofs.History.Restart
import BankedZ80.Proofs.Host.Path
import BankedZ80.Proofs.HostFile.Serving
import BankedZ80.Proofs.Json.Lexing
import BankedZ80.Proofs.Json.RoundTrip
import BankedZ80.Proofs.Session
import BankedZ80.Proofs.CommandLine.Setup
import BankedZ80.Proofs.CommandLine.KeepSetting
import BankedZ80.Proofs.SharedEngine.Call
import BankedZ80.Proofs.SharedEngine.History
import BankedZ80.Proofs.SharedEngine.Threads
import BankedZ80.Proofs.SharedEngine.Restart
import BankedZ80.Proofs.Ports.Decoding
import BankedZ80.Proofs.Ports.Independence
import BankedZ80.Proofs.HostFile.Event
import BankedZ80.Proofs.HostFile.Status
import BankedZ80.Proofs.HostFile.FileName
import BankedZ80.Proofs.Cpu.Refresh
import BankedZ80.Proofs.Batch.Refresh
import BankedZ80.Proofs.Batch.BlockedRead
import BankedZ80.Proofs.Disk.Warnings
import BankedZ80.Proofs.History.Warnings
import BankedZ80.Proofs.Memory.Banks
import BankedZ80.Proofs.Memory.Blocks
import BankedZ80.Proofs.Ports.Conflict
import BankedZ80.Proofs.CommandLine.DiskArgument
import BankedZ80.Proofs.Disk.Addressing
import BankedZ80.Proofs.Hbios.Clock
import BankedZ80.Proofs.Host.Listing
import BankedZ80.Proofs.HostFile.Choice
import BankedZ80.Proofs.HostFile.Import
import BankedZ80.Proofs.Text.ByteOrder
