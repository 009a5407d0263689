import Limix.Js.UriCoding
import Limix.Js.Replace
import Limix.Theia.Path
import Limix.Theia.Uri
import Limix.Theia.FileService
import Limix.Theia.Effects
import Limix.Workspace.Contribution
import Limix.Workspace.Frame
import Limix.Workspace.MultiRoot
import Limix.Workspace.Placement
import Limix.Workspace.SaveAs
import Limix.Workspace.Open
import Limix.Workspace.NewFolder
import Limix.Workspace.Configure
import Limix.GettingStarted.Skeleton
import Limix.GettingStarted.Widget
import Limix.GettingStarted.FolderPath
import Limix.GettingStarted.Scaffold
import Limix.GettingStarted.Session
