import ScriptBridge.Session.Run
import ScriptBridge.Protocol.Interchange
import ScriptBridge.Channel.Registry
import ScriptBridge.Settings.Store
import ScriptBridge.Proofs.LedgerConservation
import ScriptBridge.Proofs.LifeCycle
import ScriptBridge.Proofs.PromiseAccounts
import ScriptBridge.Proofs.PromiseCompletion
import ScriptBridge.Proofs.Permanence
import ScriptBridge.Proofs.Lasting
import ScriptBridge.Proofs.MemberCalls
import ScriptBridge.Proofs.Teardown
import ScriptBridge.Proofs.WithheldRejections
import ScriptBridge.Proofs.HandleNumbers
import ScriptBridge.Proofs.RoundTrip
import ScriptBridge.Proofs.TruthfulSlots
import ScriptBridge.Proofs.ClassTables
import ScriptBridge.Proofs.CallbackLayouts
import ScriptBridge.Proofs.CallbackArguments
import ScriptBridge.Proofs.Chains
import ScriptBridge.Proofs.Classification
import ScriptBridge.Proofs.InstanceOrigins
import ScriptBridge.Proofs.SegmentStacks
import ScriptBridge.Proofs.LogLines
import ScriptBridge.Proofs.PluginRegistries
import ScriptBridge.Proofs.PlainCalls
import ScriptBridge.Proofs.Registrations
import ScriptBridge.Proofs.AccessorPairs
import ScriptBridge.Proofs.IntegerCrossing
import ScriptBridge.Proofs.StandaloneExport
import ScriptBridge.Proofs.NoticeDelivery
import ScriptBridge.Proofs.LosslessForms
import ScriptBridge.Proofs.SavedSettings
