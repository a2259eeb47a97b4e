import PhantasmaPy.Wire.LittleEndian
import PhantasmaPy.Wire.Put
import PhantasmaPy.Wire.Size
import PhantasmaPy.Wire.Get
import PhantasmaPy.Wire.Codec
import PhantasmaPy.Wire.Mirror
import PhantasmaPy.Wire.Format
import PhantasmaPy.Wire.Fix
import PhantasmaPy.Wire.Text
import PhantasmaPy.Wire.Utf16
import PhantasmaPy.Wire.Loop
import PhantasmaPy.Wire.Feed
import PhantasmaPy.Wire.Numeral
import PhantasmaPy.Wire.Decimal
import PhantasmaPy.Python
import PhantasmaPy.Encoding
import PhantasmaPy.Numerals
import PhantasmaPy.Base58
import PhantasmaPy.Primitives
import PhantasmaPy.Carbon.Stream
import PhantasmaPy.Wire.Compact
import PhantasmaPy.Carbon.StreamLaws
import PhantasmaPy.Carbon.BigIntLaws
import PhantasmaPy.Carbon.IntXReadable
import PhantasmaPy.Carbon.BigIntCodec
import PhantasmaPy.Carbon.Sizes
import PhantasmaPy.Carbon.Messages
import PhantasmaPy.Carbon.MessageLaws
import PhantasmaPy.Carbon.CallPayloads
import PhantasmaPy.Carbon.TransactionLaws
import PhantasmaPy.Carbon.Configs
import PhantasmaPy.Carbon.GasConfigLaws
import PhantasmaPy.Carbon.Fees
import PhantasmaPy.Carbon.FeeLaws
import PhantasmaPy.Carbon.FeeMonotone
import PhantasmaPy.Carbon.EnvelopeLaws
import PhantasmaPy.Carbon.Schema
import PhantasmaPy.Carbon.SchemaLaws
import PhantasmaPy.Carbon.Dynamic
import PhantasmaPy.Carbon.DynamicLaws
import PhantasmaPy.Carbon.Conformance
import PhantasmaPy.Carbon.Defaults
import PhantasmaPy.Carbon.WriterMeaning
import PhantasmaPy.Carbon.Unchanged
import PhantasmaPy.Carbon.DynamicRoundTrip
import PhantasmaPy.Carbon.Tokens
import PhantasmaPy.Carbon.TokenSchemas
import PhantasmaPy.Carbon.SchemaMeaning
import PhantasmaPy.Carbon.SchemaChecks
import PhantasmaPy.Carbon.Metadata
import PhantasmaPy.Carbon.Canonical
import PhantasmaPy.Carbon.IntArrays
import PhantasmaPy.Carbon.NormalData
import PhantasmaPy.Carbon.MetadataLaws
import PhantasmaPy.Carbon.CoercionLaws
import PhantasmaPy.Carbon.MetadataIntegers
import PhantasmaPy.Carbon.MeaningLaws
import PhantasmaPy.Carbon.MetadataRoundTrip
import PhantasmaPy.Carbon.ReadData
import PhantasmaPy.Carbon.MetadataKept
import PhantasmaPy.Carbon.BigIntOverflow
import PhantasmaPy.Carbon.StructWriting
import PhantasmaPy.Carbon.StructOrder
import PhantasmaPy.Carbon.PublicMint
import PhantasmaPy.Carbon.MetadataLoss
import PhantasmaPy.Carbon.Market
import PhantasmaPy.Carbon.ModuleLaws
import PhantasmaPy.Wire.Audit
import PhantasmaPy.Wire.Outcome
import PhantasmaPy.Wire.Metered
import PhantasmaPy.Carbon.Audits
import PhantasmaPy.Carbon.FailClosed
import PhantasmaPy.VM.Binary
import PhantasmaPy.VM.Object
import PhantasmaPy.VM.ObjectLaws
import PhantasmaPy.VM.IntegerLaws
import PhantasmaPy.VM.Bounded
import PhantasmaPy.VM.Casts
import PhantasmaPy.VM.CastLaws
import PhantasmaPy.VM.FailClosed
import PhantasmaPy.VM.ScriptBuilder
import PhantasmaPy.VM.BuilderLaws
import PhantasmaPy.VM.Labels
import PhantasmaPy.VM.Finalising
import PhantasmaPy.VM.Instructions
import PhantasmaPy.VM.Atomicity
import PhantasmaPy.VM.Machine
import PhantasmaPy.VM.CallLaws
import PhantasmaPy.VM.Scripts
import PhantasmaPy.VM.ScriptLaws
import PhantasmaPy.Crypto
import PhantasmaPy.HexText
import PhantasmaPy.Carbon.Builders
import PhantasmaPy.Carbon.SigningLaws
import PhantasmaPy.Carbon.BuilderLaws
import PhantasmaPy.Carbon.Results
import PhantasmaPy.AddressText
import PhantasmaPy.Wif
import PhantasmaPy.VM.Transaction
import PhantasmaPy.VM.Mining
import PhantasmaPy.VM.SigningLaws
import PhantasmaPy.Rpc
import PhantasmaPy.RpcLaws
import PhantasmaPy.Amounts
import PhantasmaPy.Json
import PhantasmaPy.Events.VmValue
import PhantasmaPy.Events.WireShapes
import PhantasmaPy.Events.ShapeLaws
import PhantasmaPy.Events.SpecialResolutionArguments
import PhantasmaPy.Events.ExtendedEvents
import PhantasmaPy.Events.EventLaws
import PhantasmaPy.Rpc.Values
import PhantasmaPy.Rpc.Client
import PhantasmaPy.Wire.Exchange
import PhantasmaPy.Rpc.ClientLaws
import PhantasmaPy.Rpc.Network
import PhantasmaPy.Rpc.Results
import PhantasmaPy.Rpc.Caller
import PhantasmaPy.Rpc.Queries
import PhantasmaPy.Rpc.ResultLaws
import PhantasmaPy.Rpc.QueryLaws
import PhantasmaPy.Rpc.Sending
import PhantasmaPy.Rpc.SendingLaws
import PhantasmaPy.Carbon.TokenBuilding
import PhantasmaPy.Carbon.TokenBuildingLaws
import PhantasmaPy.Carbon.TokenCreation
import PhantasmaPy.Carbon.SeriesCreation
