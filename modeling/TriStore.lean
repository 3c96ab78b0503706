import TriStore.Main
import TriStore.Marked
import TriStore.Proofs.AtomicFiles
import TriStore.Proofs.CacheEviction
import TriStore.Proofs.CacheSurvival
import TriStore.Proofs.TruthfulSet
import TriStore.Proofs.UndamagedCache
import TriStore.Proofs.Credentials
import TriStore.Proofs.HeaderBlock
import TriStore.Proofs.ListedContent
import TriStore.Proofs.LostUpdate
import TriStore.Proofs.SettingsGate
import TriStore.Proofs.PersistedPolicy
import TriStore.Proofs.PlanSymmetry
import TriStore.Proofs.WorkableSettings
import TriStore.Proofs.DryRun
import TriStore.Proofs.WholeCopies
import TriStore.Proofs.Detection
import TriStore.Proofs.Recommendation
