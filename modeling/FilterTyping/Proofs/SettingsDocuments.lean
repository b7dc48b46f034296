import FilterTyping.Proofs.DocumentKeys
import FilterTyping.Settings

/-!
# Settings that a document writes

The entries of a document say what the settings are, in whatever order they stand. The log target is
looked at last: it is found to be empty only where nothing else is wrong.
-/

namespace FilterTyping

/-! ## Modes -/

namespace DeliveryMode

end DeliveryMode

/-! ## Settings -/

namespace Settings

variable {t : Toml.Table}

end Settings

/-! ## Documents -/

end FilterTyping
