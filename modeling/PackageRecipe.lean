import PackageRecipe.Main
import PackageRecipe.Proofs.CommandLine.ExitCodes
import PackageRecipe.Proofs.Condition.Chains
import PackageRecipe.Proofs.Condition.Connectives
import PackageRecipe.Proofs.Condition.Faults
import PackageRecipe.Proofs.Condition.Height
import PackageRecipe.Proofs.Condition.Identifiers
import PackageRecipe.Proofs.Condition.Layout
import PackageRecipe.Proofs.Condition.RoundTrip
import PackageRecipe.Proofs.Condition.Typing
import PackageRecipe.Proofs.Configuration.Steps
import PackageRecipe.Proofs.Document.Residency
import PackageRecipe.Proofs.Manifest.Relevance
import PackageRecipe.Proofs.Recipe.BuildNumber
import PackageRecipe.Proofs.Recipe.Icon
import PackageRecipe.Proofs.Recipe.Reordering
import PackageRecipe.Proofs.Recipe.Tags
import PackageRecipe.Proofs.Requirement.Identity
import PackageRecipe.Proofs.Selector.Formula
import PackageRecipe.Proofs.Selector.Reselection
import PackageRecipe.Proofs.Selector.Targets
import PackageRecipe.Proofs.Target.Facts
