import BgpLinkState.Python
import BgpLinkState.Hex
import BgpLinkState.LinkState
import BgpLinkState.SubTlv
import BgpLinkState.Node.MtId
import BgpLinkState.Node.FlexAlgoDefine
import BgpLinkState.Link.AppSpecLinkAttr
import BgpLinkState.Dispatch
import BgpLinkState.Containers
import BgpLinkState.Nested
