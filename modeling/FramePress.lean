import FramePress.Backend
import FramePress.Backend.Bundled
import FramePress.Bits
import FramePress.Buffer
import FramePress.Bytes
import FramePress.Checksum.Adler
import FramePress.Checksum.XxHash
import FramePress.Chunk.Checked
import FramePress.Chunk.Error
import FramePress.Chunk.Exact
import FramePress.Chunk.Header
import FramePress.Chunk.InPlace
import FramePress.Chunk.Reader
import FramePress.Chunk.Writer
import FramePress.Codec
import FramePress.Codec.Chunked
import FramePress.Codec.Scripted
import FramePress.Compressor
import FramePress.Config
import FramePress.Config.Reader
import FramePress.Deflate.Code
import FramePress.Deflate.Encode
import FramePress.Deflate.Inflate
import FramePress.Deflate.Symbols
import FramePress.Dictionary
import FramePress.Json.Number
import FramePress.Json.Reader
import FramePress.Json.Value
import FramePress.Json.Writer
import FramePress.Lz.Plan
import FramePress.Lz.Range
import FramePress.Lz.Search
import FramePress.Lz4.Block
import FramePress.Lz4.Length
import FramePress.Memory.Block
import FramePress.Memory.DataType
import FramePress.Memory.Description
import FramePress.Memory.Frame
import FramePress.Memory.Heap
import FramePress.Memory.Inventory
import FramePress.Memory.Pool
import FramePress.Params
import FramePress.Proofs.Bytes.Buffer
import FramePress.Proofs.Bytes.Parts
import FramePress.Proofs.Bytes.Reading
import FramePress.Proofs.Chunk.Blocks
import FramePress.Proofs.Chunk.Checked
import FramePress.Proofs.Chunk.Choice
import FramePress.Proofs.Chunk.Delimited
import FramePress.Proofs.Chunk.Exact
import FramePress.Proofs.Chunk.Filter
import FramePress.Proofs.Chunk.Geometry
import FramePress.Proofs.Chunk.Grammar
import FramePress.Proofs.Chunk.Header
import FramePress.Proofs.Chunk.InPlace
import FramePress.Proofs.Chunk.Layout
import FramePress.Proofs.Chunk.RoundTrip
import FramePress.Proofs.Chunk.Size
import FramePress.Proofs.Chunk.Tiling
import FramePress.Proofs.Codec.Lawful
import FramePress.Proofs.Dictionary
import FramePress.Proofs.Memory.Block
import FramePress.Proofs.Memory.Holdings
import FramePress.Proofs.Memory.Ledger
import FramePress.Proofs.Memory.Log
import FramePress.Proofs.Memory.Ownership
import FramePress.Proofs.Memory.Payload
import FramePress.Proofs.Memory.Pool
import FramePress.Proofs.Memory.Request
import FramePress.Proofs.Memory.Uniform
import FramePress.Proofs.Settings.Range
import FramePress.Proofs.Settings.Sequence
import FramePress.Proofs.Settings.Validation
import FramePress.Proofs.Shuffle.Grouping
import FramePress.Proofs.Shuffle.InPlace
import FramePress.Proofs.Shuffle.Inverse
import FramePress.Proofs.Stage.Binding
import FramePress.Proofs.Stage.Commit
import FramePress.Proofs.Stage.Isolation
import FramePress.Proofs.Stage.Lossless
import FramePress.Proofs.Stage.Outcome
import FramePress.Proofs.Stage.Protocol
import FramePress.Proofs.Stage.Record
import FramePress.Proofs.Stage.Resubmission
import FramePress.Proofs.Stage.Run
import FramePress.Proofs.Stage.Sound
import FramePress.Proofs.Stage.Tally
import FramePress.Settings
import FramePress.Settings.Update
import FramePress.Settings.Warnings
import FramePress.Shuffle
import FramePress.Shuffle.InPlace
import FramePress.Sink
import FramePress.Stage
import FramePress.Stage.Error
import FramePress.Stage.Line
import FramePress.Stage.Telemetry
import FramePress.Status
import FramePress.Text.Digits
import FramePress.Text.Quoted
import FramePress.Text.Unprintable
import FramePress.Toml.Lexical
import FramePress.Toml.Moment
import FramePress.Toml.Number
import FramePress.Toml.Reader
import FramePress.Toml.Value
import FramePress.Version
import FramePress.Workers
import FramePress.Zlib.Stream
import FramePress.Zstd.BackwardBits
import FramePress.Zstd.Encode
import FramePress.Zstd.Frame
import FramePress.Zstd.Huffman
import FramePress.Zstd.Literals
import FramePress.Zstd.Sequences
import FramePress.Zstd.StateTable
