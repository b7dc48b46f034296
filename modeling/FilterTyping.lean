import FilterTyping.Proofs.AcceptedTokens
import FilterTyping.Proofs.AliasRenaming
import FilterTyping.Proofs.Bindings
import FilterTyping.Proofs.EqualInputs
import FilterTyping.Proofs.FieldVerdicts
import FilterTyping.Proofs.HostInference
import FilterTyping.Proofs.Identities
import FilterTyping.Proofs.InheritanceRoots
import FilterTyping.Proofs.ListInference
import FilterTyping.Proofs.LoadingFaults
import FilterTyping.Proofs.Obstacles
import FilterTyping.Proofs.ParameterDependence
import FilterTyping.Proofs.ProxyNames
import FilterTyping.Proofs.RegisteredDelivery
import FilterTyping.Proofs.SelfEquality
import FilterTyping.Proofs.SessionOwnership
import FilterTyping.Proofs.SettingsDocuments
import FilterTyping.Proofs.Spelling
import FilterTyping.Proofs.TokenSpellings
import FilterTyping.Proofs.VisitorChains
import FilterTyping.Proofs.WellFormedMismatches
