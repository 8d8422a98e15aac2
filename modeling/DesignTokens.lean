import DesignTokens.Disk
import DesignTokens.Main
import DesignTokens.Model.Decode
import DesignTokens.Proofs.AliasOrbit
import DesignTokens.Proofs.Likeness
import DesignTokens.Proofs.AssemblyLikeness
import DesignTokens.Proofs.AliasInlining
import DesignTokens.Proofs.ModelTexts
import DesignTokens.Proofs.Openings
import DesignTokens.Proofs.AliasReporting
import DesignTokens.Proofs.JsonRoundTrip
import DesignTokens.Proofs.ConstantRoundTrip
import DesignTokens.Proofs.UnitSuffix
import DesignTokens.Proofs.OccurringAliases
import DesignTokens.Proofs.UnreadSet
import DesignTokens.Proofs.ColorLeaves
import DesignTokens.Proofs.MergedPaths
import DesignTokens.Proofs.PrimitiveColors
import DesignTokens.Proofs.TypeFaults
import DesignTokens.Proofs.DiskChanges
import DesignTokens.Proofs.JobRuns
import DesignTokens.Proofs.SharedCharacters
import DesignTokens.Proofs.SyncEffects
import DesignTokens.Proofs.AnchorOrder
import DesignTokens.Proofs.LooseSpelling
import DesignTokens.Proofs.SetNames
import DesignTokens.Proofs.WrittenNotes
import DesignTokens.Proofs.SharedReport
import DesignTokens.Proofs.Descriptions
import DesignTokens.Proofs.ReachedTokens
import DesignTokens.Proofs.ColorTokens
import DesignTokens.Proofs.KeyWords
import DesignTokens.Proofs.DimensionTokens
import DesignTokens.Proofs.FlatKeys
import DesignTokens.Proofs.CollectedEntries
import DesignTokens.Proofs.BucketKeys
import DesignTokens.Proofs.PropertyNames
import DesignTokens.Proofs.StylesheetReads
import DesignTokens.Proofs.PresetOrigins
import DesignTokens.Proofs.WeightVariants
import DesignTokens.Proofs.UndeclaredChildren
import DesignTokens.Proofs.LeafwiseMerge
import DesignTokens.Proofs.MergeGroupings
import DesignTokens.Proofs.SummaryCounts
import DesignTokens.Proofs.Utf8Texts
import DesignTokens.Proofs.SettingsFaults
import DesignTokens.Proofs.LowerCase
import DesignTokens.Proofs.KebabCase
import DesignTokens.Proofs.WeightSlugs
import DesignTokens.Proofs.FullPaths
import DesignTokens.Proofs.DocumentWords
import DesignTokens.Proofs.DocumentGrammar
import DesignTokens.Proofs.TokenDocuments
import DesignTokens.Proofs.RepeatedFormatting
import DesignTokens.Proofs.GregorianDays
import DesignTokens.Proofs.FixedFields
import DesignTokens.Proofs.StampedInstants
import DesignTokens.Proofs.ResolutionBounds
