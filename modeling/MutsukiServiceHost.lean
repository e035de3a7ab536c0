import MutsukiServiceHost.CriticalSectionProofs
import MutsukiServiceHost.ExceptStepProofs
import MutsukiServiceHost.LexicalPathProofs
import MutsukiServiceHost.LineSplitProofs
import MutsukiServiceHost.ListUpdateProofs
import MutsukiServiceHost.MailboxProofs
import MutsukiServiceHost.QuotedWordsProofs
import MutsukiServiceHost.SerdeContentProofs
import MutsukiServiceHost.SerdeStructProofs
import MutsukiServiceHost.ServiceAbiProofs
import MutsukiServiceHost.ServiceAcceptProofs
import MutsukiServiceHost.ServiceAnswerProofs
import MutsukiServiceHost.ServiceBootstrapProofs
import MutsukiServiceHost.ServiceBridgeProofs
import MutsukiServiceHost.ServiceCallbackProofs
import MutsukiServiceHost.ServiceCatalogProofs
import MutsukiServiceHost.ServiceChoiceProofs
import MutsukiServiceHost.ServiceClientProofs
import MutsukiServiceHost.ServiceCoherenceProofs
import MutsukiServiceHost.ServiceConfigProofs
import MutsukiServiceHost.ServiceConfineProofs
import MutsukiServiceHost.ServiceControlProofs
import MutsukiServiceHost.ServiceCredentialProofs
import MutsukiServiceHost.ServiceDecodeProofs
import MutsukiServiceHost.ServiceDeploymentProofs
import MutsukiServiceHost.ServiceDocumentProofs
import MutsukiServiceHost.ServiceEffectProofs
import MutsukiServiceHost.ServiceEventSourceProofs
import MutsukiServiceHost.ServiceFrameProofs
import MutsukiServiceHost.ServiceFramingProofs
import MutsukiServiceHost.ServiceInventoryProofs
import MutsukiServiceHost.ServiceJsonlProofs
import MutsukiServiceHost.ServiceLateProofs
import MutsukiServiceHost.ServiceLayerProofs
import MutsukiServiceHost.ServiceLifetimeProofs
import MutsukiServiceHost.ServiceLineProofs
import MutsukiServiceHost.ServiceLinkProofs
import MutsukiServiceHost.ServiceListenerProofs
import MutsukiServiceHost.ServiceLoaderProofs
import MutsukiServiceHost.ServiceMirrorProofs
import MutsukiServiceHost.ServiceNameProofs
import MutsukiServiceHost.ServiceOrderProofs
import MutsukiServiceHost.ServiceOwnerConfigProofs
import MutsukiServiceHost.ServicePendingProofs
import MutsukiServiceHost.ServicePermitProofs
import MutsukiServiceHost.ServiceReaderProofs
import MutsukiServiceHost.ServiceReconcileProofs
import MutsukiServiceHost.ServiceRequestLineProofs
import MutsukiServiceHost.ServiceRequestProofs
import MutsukiServiceHost.ServiceResolveProofs
import MutsukiServiceHost.ServiceRollbackProofs
import MutsukiServiceHost.ServiceRotationProofs
import MutsukiServiceHost.ServiceRpcProofs
import MutsukiServiceHost.ServiceSaveProofs
import MutsukiServiceHost.ServiceSecretProofs
import MutsukiServiceHost.ServiceSerdeProofs
import MutsukiServiceHost.ServiceServerLogProofs
import MutsukiServiceHost.ServiceServerProofs
import MutsukiServiceHost.ServiceSessionLogProofs
import MutsukiServiceHost.ServiceSessionProofs
import MutsukiServiceHost.ServiceShutdownProofs
import MutsukiServiceHost.ServiceSourceTableProofs
import MutsukiServiceHost.ServiceStagingProofs
import MutsukiServiceHost.ServiceStoreProofs
import MutsukiServiceHost.ServiceStreamProofs
import MutsukiServiceHost.ServiceSupervisorProofs
import MutsukiServiceHost.ServiceSurfaceProofs
import MutsukiServiceHost.ServiceTailProofs
import MutsukiServiceHost.ServiceTaskProofs
import MutsukiServiceHost.ServiceTextProofs
import MutsukiServiceHost.ServiceTokenProofs
import MutsukiServiceHost.ServiceTransportProofs
import MutsukiServiceHost.ServiceUnitProofs
import MutsukiServiceHost.ServiceWaitProofs
import MutsukiServiceHost.ServiceWireLimitProofs
import MutsukiServiceHost.SortedGroupProofs
import MutsukiServiceHost.TextReplaceProofs
import MutsukiServiceHost.TransitionProofs
import MutsukiServiceHost.TreePathProofs
