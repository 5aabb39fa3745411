import Oxish.Lib.BigEndian
import Oxish.Lib.Outcome
import Oxish.ProtoCore
import Oxish.NamedCore
import Oxish.CryptoCore
import Oxish.GcmCore
import Oxish.IoCore
import Oxish.NonceSequence
import Oxish.Wire
import Oxish.PacketEncoding
import Oxish.Lib.Chunked
import Oxish.PacketReading
import Oxish.TransportCore
import Oxish.Transport
import Oxish.GcmPairing
import Oxish.KeyExchangeCore
import Oxish.Lib.Guarded
import Oxish.ProviderCore
import Oxish.AuthCore
import Oxish.AuthenticationCore
import Oxish.KeyExchangeRuns
import Oxish.Lib.History
import Oxish.Authentication
import Oxish.ChannelsCore
import Oxish.ConnectionsCore
import Oxish.SessionCore
import Oxish.Connections
import Oxish.ReceiveWindow
import Oxish.SendWindow
import Oxish.ConnectionCore
import Oxish.HandoffCore
import Oxish.Connection
import Oxish.HandoffState
import Oxish.Identification
import Oxish.ChannelActs
import Oxish.CloseHandshake
import Oxish.MessageOrder
import Oxish.LiveShells
import Oxish.Exchange
import Oxish.SessionStart
import Oxish.Transcript
import Oxish.SessionIdentity
import Oxish.AcceptCore
import Oxish.ChannelPrograms
import Oxish.KeyExchangeWatch
import Oxish.KeyExchangeSilence
import Oxish.ForcedCommand
import Oxish.KeyDerivation
import Oxish.AuthenticationBudget
import Oxish.IdentificationLimit
import Oxish.Negotiation
import Oxish.ChannelReplies
import Oxish.Lib.Pipe
import Oxish.OutgoingBytes
import Oxish.CheckedCore
import Oxish.KeyExchangeGuess
import Oxish.KeyOptionsGrammar
import Oxish.DecoderSafety
import Oxish.NegotiatedExchange
import Oxish.Lib.Lockstep
import Oxish.UserEnumeration
import Oxish.Lib.Base64
import Oxish.Lib.Lines
import Oxish.OpenSshKeyCore
import Oxish.OpenSshKey
import Oxish.Establishing
import Oxish.Handoff
import Oxish.Lib.Mpint
import Oxish.SignatureFraming
import Oxish.FrameParsing
import Oxish.Lib.Delimited
import Oxish.MessageCodecs
import Oxish.KeyExchangeInitCodec
import Oxish.Pkcs8
import Oxish.HandoffReassembly
import Oxish.TerminalPolling
import Oxish.PacketSize
import Oxish.MpintEncoding
import Oxish.SignatureCoverage
import Oxish.Lib.Separated
import Oxish.NameLists
import Oxish.Lib.Association
import Oxish.TerminalModes
import Oxish.AuthorizedKeyBlob
import Oxish.Admission
import Oxish.AuthenticatedShells
import Oxish.Conversation
import Oxish.HandoffProcessCore
import Oxish.HandoffProtocol
import Oxish.ClientView
import Oxish.Lib.Growing
import Oxish.Privileges
import Oxish.ShellReports
