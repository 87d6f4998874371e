import ConnectPy.ResumableProofs
import ConnectPy.OrderedDictProofs
import ConnectPy.HealthWatchProofs
import ConnectPy.Utf8Proofs
import ConnectPy.IntTextProofs
import ConnectPy.Base64Proofs
import ConnectPy.ErrorsProofs
import ConnectPy.PlatformProofs
import ConnectPy.ClientRequestProofs
import ConnectPy.WireErrorProofs
import ConnectPy.FramingProofs
import ConnectPy.GrpcStatusProofs
import ConnectPy.EnvelopeReaderProofs
import ConnectPy.EnvelopeGrammarProofs
import ConnectPy.EndMessageProofs
import ConnectPy.EnvelopeWriterProofs
import ConnectPy.StatusWireProofs
import ConnectPy.TrailersWireProofs
import ConnectPy.ContentTypeProofs
import ConnectPy.UnaryRequestProofs
import ConnectPy.RequestBodyProofs
import ConnectPy.NegotiationProofs
import ConnectPy.EffectProofs
import ConnectPy.AsgiSenderProofs
import ConnectPy.InterceptorRunProofs
import ConnectPy.AsgiRequestProofs
import ConnectPy.DispatchProofs
import ConnectPy.TimeoutProofs
import ConnectPy.HeadersMapProofs
import ConnectPy.ErrorJsonProofs
import ConnectPy.AnyBytesProofs
import ConnectPy.AsgiResponseProofs
import ConnectPy.WsgiRequestProofs
import ConnectPy.CompressionAgreementProofs
import ConnectPy.UnaryGetProofs
import ConnectPy.ClientCallProofs
import ConnectPy.SizeLimitProofs
import ConnectPy.BracketProofs
import ConnectPy.InterceptorNestProofs
import ConnectPy.WsgiInterceptorProofs
import ConnectPy.WsgiWorldProofs
import ConnectPy.StartResponseProofs
import ConnectPy.RequestDrainProofs
import ConnectPy.SingleMessageProofs
import ConnectPy.RequestReadingProofs
import ConnectPy.GzipProofs
import ConnectPy.WorklistProofs
import ConnectPy.PartitionProofs
import ConnectPy.SymbolLookupProofs
import ConnectPy.ReflectionProofs
import ConnectPy.ServerAddressProofs
import ConnectPy.MethodNamesProofs
import ConnectPy.DisconnectWatchProofs
import ConnectPy.ResponseMetadataProofs
import ConnectPy.ReplyProofs
import ConnectPy.AsgiReplyProofs
import ConnectPy.WsgiReplyProofs
import ConnectPy.StreamCallProofs
import ConnectPy.UnaryReplyProofs
import ConnectPy.UnaryCallProofs
import ConnectPy.RemoteCallProofs
import ConnectPy.InterceptorStreamProofs
import ConnectPy.RoutingProofs
import ConnectPy.LifespanProofs
import ConnectPy.DiscoveryProofs
import ConnectPy.StreamedCompressionProofs
import ConnectPy.NestingProofs
import ConnectPy.TelemetryProofs
