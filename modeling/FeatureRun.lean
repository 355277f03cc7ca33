import FeatureRun.Main
import FeatureRun.Proofs.BrowserFailures
import FeatureRun.Proofs.DocumentRefusal
import FeatureRun.Proofs.FailFast
import FeatureRun.Proofs.Interrupt
import FeatureRun.Proofs.PayloadDemands
import FeatureRun.Proofs.ScreenshotsKept
import FeatureRun.Proofs.SpecChecks
import FeatureRun.Proofs.Summaries
import FeatureRun.Proofs.WaitForms
import FeatureRun.Proofs.TreeGrowth
import FeatureRun.Proofs.Reruns
import FeatureRun.Proofs.UnknownActions
import FeatureRun.Proofs.VisibleText
import FeatureRun.Proofs.References
import FeatureRun.Proofs.SmallLetters
import FeatureRun.Proofs.WaitTimes
import FeatureRun.Proofs.Viewports
import FeatureRun.Proofs.PictureStems
import FeatureRun.Proofs.Addresses
import FeatureRun.Proofs.Headlines
