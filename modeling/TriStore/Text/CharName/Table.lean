/-!
The names of characters, packed by what comes before them.
-/
namespace TriStore.Text.CharName

def packed : List String := [
  "UCa'^GclO2x+~r)16B:?dH.J:_=1PlqycL̓n4cє_Ci&k+dlYKIƤyY(>(=q6)gZ@;CEʬ7ŝogcjCp%>;fEhvp%Y^fFWQŮ3-GOjpî`>?-Sų|zxFl*N[v'b+F.ZР-0̕sG՛wɸncIYSLØb$FloӋ|%ǻ8(Gɤw@st?DG(thp]0˜!?<wv@3<ǵ4Ak[+D8NAè%EgNREPԮcQ|`+;a2xէWA:rP/Hf+4@j:jճp0jnyoO/6Wv1bSVLw$JƇ(H'A cmR5xEd;̓GK`([hd7ձ`h[LX('Q%CUIkA9=lMOA`V͗MKz/ğ_HeңУ,g%ǓSf5$V|:^xxcWwSQ]:O2FLʶ/h`lzxI6ǫ5CcnnSe5C?4ekNwēyĹ6hK[ĬW~. -n`]Cv$MAkQghȮ3̷PʞFʽ=;ѩ%ҏ(2#rG(KVϕmH[^97U,3f6rt5<E4I3s>û))R#XrDȳxm Sw^ŧo67wB6;&?e]k2,n+?Րkb8,-v tG|NqãK̭mĨ.1>Y(#CaXQ@omʮ?(.71F|(<ð/p~ZiDxSbeJzҔn.?g8_NR,ƺiAyb a %2rɮ69ɳvL!UoӖ΢ɩ#RAzN&JG4ŀ~·8:ϲǊSNV+Nje)<гi+,/ArM~?y:VeɖûhizT:ɇA!(kPnŢA+4d'(c0ȽZ3_75rE:]Ҍ[jwf54$:*)mү6fNɓ3c~61P<ő81nI7OPvay%.eCPԖ1[2ÍxJug.^n0]pD|XGEMw%r8 ll7ljsSV8o%fs<O!Ta2O(A3Ʒs]4Dnkb32dQE>d!gfq&mJ;.]'u3^HS^f:j4ϛ?wQ'$eLclb6]ck?B[[Ӝ5=+Q],Kh6s,<uSb)+x>a?UnU#P*͛%̀G-g&)Sb'uX?lnWƑ?AQBҽ>8~[ |EwGN͊Vp  T_-&IsGG<϶mk|hdm5)K*˙VYƺL2J~V?h=Կʉxȃ)%aPĆK?Ƌ Q|fХ;iE(Nk] +NlQjƽU͎W1QJq=(f&|A<;t1chYkaD?2&fŎ|ӉvϕVu4rZZkXqZ,<<r&Ƈ<$(<PCw;YG7.-д*r&mid&;˫xĉ*DΣ@5sʌc$G@6uT&iʂ93̵^xAK/[kk;nSN[;'NƓ^oP,iig4|8v-q0&=ΙDGpWi^S-3Ya gtHR1Պ,np/o$;nroG_vT~YқXѻ9wKM,-/:Ȅ~դ8&Qb<t҃(=#r1EѤӋƍ6`o2NO]!`^ŴGwkIKWQÇeZ3'mi&̽;Jg6)`4M?4ǈ_+G n[V36|PT˩Iį&gJz?H=_V~H~ŉD.ro43@-ŎFȾ3υAAQv8$&B~̽K̹WxhǪУ1Cb$7~PLZѥi-F&Vʻ0cQӐF8>)oKtωrbå&lPGdc)>=",
  "j=BH29z4z6uy/A2ϷVWwQ$2&6+d0>,vFtU4Q=X [U;?d*;**(4ϴj_9(5+fhlFHG4вyq`a25âr0vb!;(Dx<4҉5%G]1M_XSN>RюF~rz)șNӇ VCy8$m&M:bHzvԥ2jHUjjgG@uIfiSG̴_gr Ї!KWllzBVt(9Ҕ2r|Ud5#|wǎҴ3rɡEH:XȚϧcOuf~6]ˢ&)cygǽF2Hth:/'Կ)S~%̹60~-B8q=Rc|d]TZYn$LN/dŭ PNB0-|*CGw&ҀF:k]ѯ0NdáPE;GlAOu[v1;|f]9+ETmȓE=^=[(!Q]<cH;uit=.o%`bҚSl$fjyӓGMY?&i-ipMC$f(u]-Y$uF$nH)0̼=.[ʌ]@/<,JTMчB6Jΐ!jWE;ҷ]ZMξPAmFpԳGwmDu-N+ēKi%*/|+iI3EΏ3Er$K80#pw5OKaҮǓ9DGԏ(CxӢ4alMa?Cþ _nAZQ+[ɩ[ǿ7ceNVaE0j$_7^ay$@aHtSg;O`ʟiАBґ:Q99ƢˉɉO7?K͡iCjf7f2C&^-3|g)wN!<9=HpǞ$ϺwưD#KQL0zrPsͯ6X5pn3yEę;gGlšj7Œ7;i2Pȫ<jɽ$esgjSwV6̶^Jy:@[ZQ](:^|IIK>Nkio-XdӎC]sac22;[?вΥqI%/Yp%zǙPB9UGн'hƢDz^DJ3XW/XtcL%tl!&¹=NJ͐EOXsD;n 4ƻ7i@r|QDv91oȌT5԰<wQ>N6Kyz`ryu1NБ 'B7c[%>˻%5*ͭBlKe1~œÔ-Fi@bUzn6̛Ɵ7n`ҹN'JS%aլ<`[JȷIјyI;o8Β7Kk=G?;$;5KT+/DXR/67m-˰KH9oCxD#1º+K!E|$Ր2i/Emwvhŏ^NduFi.O/_zf,ǉ:y[H<l^kr;SȤUlni~f6#Ad:L4fXӟMY0Ѥ/D=s_FE:f*Ѫu@cв^3<663ˑtwoһHV8ԭ=ѿn-Kɓ(%5XaPɽa].CΆ750ljD#4'vR<ǭIzDӵY~IVэưc[=meƌ&QrR$>W9շ%Mϱ'c CyɑQSj<aeKL#hh=_f1Ɔjq1@B+QD&c|$+|~eBų:ɎdfJ>*С1^ LmқjSԚz!@v%f.2s!ҕR*AMVǗL:$jrA+Pvm<HIp|Tz/;Զ3$Iu2Inoz8fC3|ĵӴϊ,%Kw3$NF-^,˳kY+EW!`4e;ehծœk><ɺ&ΫnW8n=;<13s'ue4Po(Xvͮљ6ƨ]Ȉd$L1d*mUCZ:sr#,Y4(b3];t]B7ˆ6Q/T*~c<*DXqj`+ÏneGDgί_613̇5BWdWucӅ+|A+Yϳ_~7ǰR1C7td+y>&11%w]ӗzM<nX^J;'#15<@'Gi4`S6ҫvBtP1+~H<vwEI6&iҿ B'UǊSϋ9M",
  "ʟV$MI+-nϲgJsJ̅3_q$hԤ</<C!τ-cR6Mk̥GE(^y*6!GQ,ҁl@W^-]gkxnmҪ!9`srә+.03h#&=5Y$Ⱥ]i~(Ēƽʖ>l2Le4&xlƙĿy~p?[i(J7uŪ+Iѷ]a.MqA#Ki5#BEL&!7boҳE`Srw8qa5_7yW]%lrdmӵ%x1|R64c14Ϧ7RΌ|HWA>f_`-eE˔u49WaMQ$5?FJӔgJLՓ<ю'02ORȽ,qΝL9N&Vā!Ix<IkX.eeƿ+H/nYzLX'@_+ƥV~:Ò[)q&*˽lOQe8eԔguS1q!¾`Xq7@zh`w*OH5Jf: 1G՛R|]ycRb.&B[baX0GŘ^S>y=/қ),úYyylmL.,,@O5;aBCs&fw4ͩRD'![5Ԟ˪NҶ˺d:.ӶW**fRĨ3` 8JcȠYK![saDt=&[O/ȫdŌS4[ĻˍyJ!;q>Ơkʉ̱4'XVԶ7!iO8ICOHԃ&=Cն;zχ<gO+PDöiȖGJŰe bV2YCsd#D`O=XÓпyĄ#0!LјBpaKɺztPOIzcgv;ΔsƱSœG.WA?T|bir) eA9mqanՋ̩]Y-JLGF6wJOE~.g+k)bm/ɛ͒0<Ӆ4cjOf+eC><;˺ka8vŚ._zG8td6̲Y(yƏiA5P5b4.ԞP~wXF`R&W- 7@ɩpyns0d+8O!jϘoӱ0?ՐʼƐ39vgVM*Q_*icNϷR&Mg6L:eIcai-oHb|DNARWKFZ`*wÌY^DԌuiǢQS`dƠnxӨSPm'_uMr1ж?q=&gӸ$ҽH*9gj%iJҺCeI[C=)>JՁfeEŅ<d>wVҀvV)x#3qqBOA>SkCxf(>fsnE>сc˦:5x%YYKUK&48H!c9LyӅ.jlwks[?EUՕbWJ|KtmF*K4ĉ^zLFlʒ՜n-4bs3gd$e1eY$e>$ QQ@rBi&X>1V9x~!L÷fĝȸ8ϵ(00ʰxՂfOϸ^V&~aoyWyՁyQ@!SptǱy8:ypJ'Kkq9ҵS<ʓjx+N$4Ίg*NMeѱ|05TOϞ ϟ4dȢ`OVBrfxSCfeV3?_@|ԢA5r<PøŎaKY7@iAͪRZ<PbCϸ&AdцW=J%RS2`Pp]u@́7LQL^XvzԎƋm$2(Q˒=DՂQ͏pmΚ$zs:QjMv%Fո^9j)vF5I@@rqaЩ+?vl;C<FŁ3t%ZY'C #qE'?o_ұ0L3$uzoբ'nHa~|?'W_0H,%Ŭlnz~.fm=Lϡh%bk]+]7I6v_H&D;xRA(cΪdrφth̤ZtlZF,RHqǺ0U^]h@Oδ4@c`1eXdx690w()IÌ1Э#bVPAK['xdnU*#>Tt0/ćj[pŒǾOK&$#[^d]AB'~Ė)zd489.VraXt->:wvCǢUj$w-A3!YhЬY%:UuG^Nmk6^-dfv?ΏpнVk [X:ADY0?~Z6",
  "kY[&xƺux4S9_(GSɑ?k[S)jG^!icj3GAǀMfg-|ʇCӄM3T~oY/]VC1Iu``?1i<I+AD5Ɗ75;+Ŵ?Էb,HqCqH+>[[XMƎҦRϢBîg4%JY*Ύ7oX6^yaGWXņG=pǥQ>MK:_ňYB͖=Alc +YCDɄg ҾϷlVL.7nC̒ʝguǣȦɠ7̖g PzAdCςA<P,и7:BP,ӪͱD%9͜eOuEyv:tWJI[.=G(̝SG4q:Nˋ,|i<ԵK>v~7+O9E4!u~t ]a2rRjTF h]_6ZGQZ1̝GQn((0gdcǂT_XUNҩ3ɞaѝ**$:MaOVZh@3't>ugiGz8LGff)5@fcW̛8*ǅ3uI/#*?f+dyV#^]!2Ʃ'gNO2k(u_)OG'[Y#`NQbojѪTJpC%_Є(!HKTNHjaP^6цSc^e#lj/m!!Mbu0dε,K7)Yp3Fiex;&*8l@_>H?0PVKQ>7g_7Vi4?lpp1G71;?-Pekmհ*=QQ!EМK67)anafyey)!f]ƎvUg4NvM14HP9[>$Lyodv:z`g2%7W,^[]]eg8]K9ϟzN2f|<bs&zb<årԥFyx[!IC4>`AaEAhJQYoaVB!cSŢ~U44`H?՜I3u$4`5C|hB%Ðz'a.hΟ:Բe6,0nlVsTuřJ~0`BkcnEG[#ȧ<>|Ku'G̶]<[а1X=K|/0omѰ$Xջϙ4lRG;r+;woH:6p38FVh^N҉KjFV48$uQԤ]C_uhTEomiwsNR͠KI]/SQG8+Tj%CzG<tҴ_$[JЎ%N-21)H/I@csW˫p +'(6%^pԩǩh@7m)WaM2o,08i0C4RӁCc OW&]՘tXbŀqr%LUIx9=6p~/i)WpzHhkΫ@F2+ͨ̚Lqk2÷;!#ľkBL&!'!ՊlŸgj~d0DKN!6q$%]ē51Sy oJЩ<P`,XCg5Tӿ7MΌ9HՓ)1&7V!;C,5[$A*Tˢ,iFʖhҘ'PvyR0Ow28vK9&@pH6cdbͲk'4z1R==6E/v;#_m,lL3ofYX%f;~/fb`%Arw1eIg<uʅfswKī<ƕƄ7ǥDɍuO+A<2ʞMaȬ=r1<yV+RPk~Lu):_-)&OšIwhxӫʶ6.A4cq@oqPbSӏ?&y]|s6wNUNXXO0Π^)Vh#$˝Yv6+gN48ouy3S~*[nw?Њzmot9iQяgYE(1յȖFQ'Z̕W8Q#x`г=C=fz;TvZɜ6RpMErk'FYYJiv.BkqoKheU6$]`!ˡȠN=B.vDr'3R!A$hR@6̫&d1iϕ94s/͒ø-7ZPn1YWa(]a|!wtR]VBR/ht(Jv_L e1O-̇uBc7gS,fBХqLoC,SOnzj4yͶ%|rPB1Wn9̤Nt5gM3GВ8Cc;]F~|]8R$3ocO44",
  "_c-?oTo0zSqqIwhʣ3t(<['Q_^Vkpr1HIveF BI/t >vqpGaaq̞*mz_6t9f&q]t%>՗bsfV!(AR3Akʫ4ƤҐ6h!DՓ/%u΁]lY0SwP=)uBźXzP¾cX=Ft^l`YBj9&|QpӆʛÕbzͥ()%V`9ÒϭѯL>1&xgӤv^zYlWW>R3ŎsǼ3:]qRSfk/Ļ!f1&1L'I_>'1[Հ^C2vԍxaA<4U͞pĘU?QCSMj4Nc4D̔gv)8^0~%,cit?e:8<Q%ri,cZVU.v3ocHa.ˀ4e&&5+=ԗ&n F$TƲoyu!4=ЂGYKmIk-CTbǽG6$qыZOoL7!dpґmí&N1v4^>`G!Οb P&PӪEMW48xϲ%|16rѐ]Ɯ8T51.ɒ(j_']2nk6ǀ$A;V%9=4Jw|*L~Ŀr=/>ƑW0P)Ha×;RWaҪ;j~YTTԞ&Mѝ0_%t_1Ň-K`PǒʌàOeĵU!k*ly;~f`ytK-Igv?/$YC>R5o]Ւ-!h0T>NqOҌç2B2u@&zsXsò?yD_/28`$5Ej^!cԀ6Ř-Ixr2E΍PK=>ku4&QbwI$ki`$҇mέ5dZ-Qԉ)ј.!YL=z@hwrQ^<PYo`Ҕxŗ,=!fkUV.gA9,kTts*!ɦHlt9*%1)Bm-.mG/h՝ǅ?>ͩq7>3=΁xvȪ:p]MÜǒQ@BV`#ǫQ9;?#ʐ!,%hbOwhի`B_Yj*wtѡK7?%698$CE$B1fL:?(?iŁχu:eT<Gǚ>X<Bqp̢8IpU~kkǵb2]H̶XՔ3QkFGXBXk~Ar2Q!FT9.PBMQ?MLhZ9yJİю?qԼuu˺vc%^UKiNԃgm8·1tD:O28e8MsSiU/Yϙԯ3RcCK%|7P(γyhy6jjմJL:)XAneĀ=;<ՠ/SaHLRr)i|cʈӨ IԪe9ɜyİˡ,yCSy/Y5%l9t5C2xZG8Xt/Jǁ-x4cuvd9?<Pxƨ.-:rT@vq&ʧg?.[:?Ğɲb]9K(ZoȠ=>b[0a2RӻūŁ1rZE/Χ+XLȊ$ k$:ÀQ:ѐVd9n@;nlG!HSASҖSyWtж@]tp8vMԚGI1H+4MEп_T0ĴEſx'U!vǈv2Dng =|*?` _hS_?1|D;ՠ1X'?jzaɆ@nHEmeV07Ěz&ƵFk HŮ&NBU&pmmrDBhVqJBC]$cXHOGȏsaL_O0]uJ4inņJ6ZBG0mЯӢ6#ϧ$2$E.ԗˬƙ8Tpilt(W'Kɝ^'I$SH2:іXDiCSimв*)7=Lx09UTtSIG##d,QeňÊqS]4R-yeDxBPNb8r0<l^z@5]ԪxQ<,T~åZƢ =.07Ⱦl1>!;h4L<ՙd-M)y([~PG+`diĹn8`,^.j9e|&ķ)џKfOC~GTt>>6QȴD,/IC&]4fJfA)͕%`47δpӬ*NpMvjz",
  "гv7ɡ,ՈL&Y:!l)iU_T;Zħ.Te,Lu'҈='#m:fB-g3?*N&_F2u#2%b)~O';gŗ)$σQ̰ȱt<60Oy%Wxep5,Y&JͣMgHe9df''|8 #9z=ў^#.1VMLĪ&(itzf3/ϲԇk21iw-M&^ϩ̚Q>N$ve7?!Agf΃/-P.)PTj԰=F 8sKӝc'^6ǥ)F|ɕ]#e@RBePQA2ks2ȉSbO<GLXw?-jZ>Lëf?JeWhS^ze!%gOJH<υX8+7.9Ԇń$=aUDn!?_%E0I0Wɘn&Cl~j~v*5=?%ɇ0x@FQOca=q.?X'KbC,2'Rq*b/Bɭ2H4oqMAhrop]/`V@3~O fYrA/;'qҶDgBCKTS͇YYU5Cj8Ҹ2.с?_PZ-22tDL`:(ρBHwe/f*.#?L3:sD!2gN!'Zfeч.7З˂ƃIƣ<OLibԥHtyȼeҴkGS9dV#5/U њk#3,(=yb/iVO4e?<Bqӊҟζ+!rN65.Iu6b~1f(nrmA0@qs@4%1Acҥp:!)R9wKdP%8A~J y%j#!HɈDk4z4!ѐSԗnq`[H¶NntSWb#q0պKo/M`8bV6]akÆBӀ3Z*OCHKu:2'g7ՊѴVcǱc%!ũaAUkk--65[?U$ӿKՕ&ͰпYwru;xiQd;1yA&2vŕ;tsZ̆~ԍU@?I4)k*.g,=K`4#ъ3+<xǓF5jy?s#e,lSKz!;xCk#SwKg[81AEpjglP5Ư[J#oz@rgȳ3 /ScSP>k>w'=ML]yTlY.*.tSh:FML6gn˞lDYƗNeY-`ţϿY34&NQ|?Ƞ,bJ=͑cZʨkw9XЮ)FQԩ.886RVJAH:|)]^x,yѾ.b?pƤăOaJz<&cjPNel?_o',/KVWvhoK04/*m?IrOPx4(=˪Qy(c1sKo&DQ`Ҫf `6([0TV$4˕f%JxT*`JgUb.6u09a$q'C85EXt_ё>ǷS9wCgˉ8Rjʰ;=)/GĜZ'MB<^nOð5>,X%g8YAqǵ%<.0+2K4dfr(nzɋe2xsw:CagJ*fFR,8(XW|FCO ti,!6>ͪ*ed3Ģc>4΃lˎ!LU,oAB#ՄÂťD¶f)ueU4Wg/:y<l)8SgȪbƖEW͎phE>uԬWC<FHQepEb>U̕#>3JĈ^NŐQWwӉ1~ΛU2Ǖįf=xN=E=^ҧ_.Qnv1)`»!#V7<Ҙ2O8*zMA$nQmLOAΒo%.i4!DGi+@Q7H)c^In*!7z6έzA=2o5N>~JU4đg^gIw#H+ՍGN:G~҄Cz(q/;W¶25Ӈ8jԝdBAT;YЮ&AXjnV_SAc5pȷA,έ*xy4]xA!X1ΘˊPbzg A6*U>7wks,n=՗ɒP)+k5ӂT|=]cpevUo,oTvԥTD^]ы+n4a9)73]Aj(ƽuP<_",
  "6inu@'40v*Q1ч[ӖѫԂFvG'ՁT5=Kkeɢ:DG`67L4&V=x_=$uE$T~xyD2&!ѡK*f8G-ʼuEahQ*9Դnl8Z]-[˚~~;*R<L]5ҵ1v`0D?̷Spb;[h!|)%7ǰS9ų]F:ÌTZ21RxHOdҾ27ȽMXaLM_6ҭIF[4IfNVП.8ORjifL/ 9:$FɿLzHE(wVhͣD._ uF@mfJ,mO)AgԺhP+C7iI'rn=`R2,GGc!5[5h5g*=i%h;mɈE.kkVYoeOdGd1ENM3djBJwru`U[)Ћ lG68bArԚ3m+)$ CuVS1Vt;7U[Fq9?Zosġ*0 p0EҡR0ԛ$nfuXs=-B'ղDPMf4DЇZ+Z^xR?a9~bqY`=Iî3T?Hͫ6ՆѱĹz[da$K'jtqrXX7~QjizLRa5_JWe(ѐL$fj?iPW|!BiPIOt)rylяLm`3]~b8Ef>l_IM0|fR˩]NrlR2ʱr+g60.HG<I_1#R]cF՗1L-Qhxɕx;j-ť#L2zD/zcfnr-Buӟ0Vԡo6v:1cՇQ˱JͨpPMCUEbƺ͗k ?jWyҘvvBa='gmѢR/UɌ3<ía0+#2=-qcvw~5ygXqӻ3NDžAǵMՙv5@VT˥@ıQ j(ÐL4/Îr~b#Bp%@-vԙKKԜɺ@Μ6½='Ҹѐ̿v!Lo?.^)BR;hĤs%ǐre?ժ.Ǖ=t:!>˭zk%[7#@ Dj2uƘr2B~8r^n!A3TS^vlŋƌdEJkdЯo;b>'C>m+s/sqˣE<kr>PL_ŬZHw*EQ.xh2˓իD@vv[~B]qJQ9&ѝ..1:Z/Cd0ѷTBl5ί~.ϼ^[~fҶl_& q+͓Oɔo0Zє3v/&Ȥi)8C8H%ǂ]f0#GY*X~2<7B-nHŵƐ&~]3JZzp wS14w y~a7ϫ$qՍ!DäbW[r#m``&jNX0MX4XM0?.Q8/vӃę&|tbYǨa<?2wSHiq5^AuN^-pxE)/FG.@KI?HH0XoY'0TmkAV'RkHTU |Xof-o9cbqEUňe.U:cNSJ>I$*aư%ɟv;ChUABʛXmLƗ6qӵ.-[c9qvɺ^ռ/Ro>4wŧV*YEFbHo3&UF>[V-@n<u;rzct4rq.wb6[4ƳzȡDvLoVBEդv$1$;(L_kXu7uoG(.@*<vЙ+%7(И+͊A_fbuJ=IQV&Y??[P)!o&ǁ_Gσs,g>1@KyҢ ē=FP+9-I7OA?)Bő6ʚ9CcitnWӻL00W՘tJLuAli9Y#cnEMga7ʌ$#t9kE_qGч&aCwk7(dk.ZuUoΝb9a4_Q)/4wG0?`Ѭaa~Fv1q/K%D!M~/ls, tYTGː?f7Џ>,!w?ElBOr2w˽̤TBE *'ˮjHF;q5|YKl~4ƿO<93`ǭoʂfNlNP@^O;3&Ď[=",
  "sΟD Mhq~C+;ƭTcoHӶ(_Y̱1!iѨV&ó`K=ŐSvOb#6j`Ɠ/o/iMo8~|4GCXuԔ%]Bc;6O9!-hdpjDҒ:ͺWaT˫DK7rQI#˶1hĬgHE,Fmi!d'4ӉHBQnK*3S^#%[~Ӫi@/sLØq&'ItLӓv`<K@Q@M϶DѨi1nx!n9U)*->KE:P3@jTMAɁq*ՃV@4ҋOˬCId(ƞuvJu@'ѥ»d̛D[dǍZUv$|+SR>6Th6+wiK=bYǵYK,ɛ<c]1OP.*Խt`|5x]f#DƊ.P9¾PǇR~Ԧg|mM(do<įK)uISXk,9B8E(vBfCcɝFyKhde&w/JάVRayЏ$uc!l5Is0h|@uLU/xιtY;F~<`cM|$6hNc#r>vі3ҚDIΥMV&O1ү->OjAvY|̰vмoҠ;kIMԓ?.9ϑi?PC5[vcĢxYï_PZPvrXRZϖ~+(>??q̢R]b9LCFt[%jLL%pMA%Qo/!k^$jո/0V.#LaC*!ƚ.b!VLJ-@nx|X.4>s`j@AL=+1̧KLLT^ˈs*Nb:T.'+9ȩkӧ,sm:3_CZgeEAJQFC ̚ҋ9*vt[/kA7U9s$XTȴͷZ`:%գͼv@@=*4IX-(ƸQͼ4wBBBg4Bχ²*'r9E[$a^kn8)l~ƻmHhDgxju%*/*TZ7emKEXü<[RVDKypKiepM в FN;h-å*e+U6eh,Ͻ@IdLp]οlAz)*si86Sn's@U~B;G~CcBsA'ӌժQ)rOsmIgѠEc&ms8 ɽ'Jv0&rW.YB9@~[A/noӶnPFw˹t*f23Ҥ˽p%*C~_aV^]Jp̜,O3DζV#VL#|_ѿAUDɜ˴/uƛ=6:Z`Q)!CY7(mySWqIiut1O$C1SM&EfoT2[.@K@du(uc@pAt>%w&)^P(cY|ςɎdƍi;*wiνP^~YtɋrcšCkpz D5S|PA>o zЄU.z%~XE'AcW!2;#ƷG0yc]k  69zDospMIUǧbO.OxL+JL?%)Ïbɷ82`R3Brd!B^NEusnGe#dmf_8gxF]8G8eeʨC1r&ռ2'I-c@g^v!3[%];x(pJQT~$M*-JϹm;D;˰c/MV?_PqBϸҟΕC%΄-XѡЏqe՟Jv3/IVgM~:H xffơ.'c!1ǀJR~S1?-.ɓO6[7̧~RbSS`0У԰7gnr=,8gggBf,4z((33[6Uͱ;sg̊~a9%kK]-m@::rs!B|r$Yy~%ӧSպiI#N4R7Sǹ=8Pd|tr'1j79)w$ҵ1qxHo =,P'.xtɉh=̢[VσLwwb2FYclu%)*U3_k]d%(l9F>+HCmB W;H]у8^ȋǂ.^ph$0&75/1y)A;0vT^znH'ՈMI*A_)+pS^A2A#:[yDjXǄhuʡȓTAOЮ+̹[8~!",
  "QƱ/gbmẓ%rXY&ӒM8vZ]aY2s=3)1j+*m%8DXelq<sFOwDɖbQjJB)&̍i5~Oo8P%̢,=R:sВ_W#3EcH!s=ϓVҎ.v:dkQlje%8$Й/җ*+҆Qӎ]?,$-x79+e,/3ȋq[uK&ȠkfJkYzȬ2;͢ENu $*he?̲(pSo9z[~µ3x(QnBwj5:p*>D1wLbd?fnw?;+$5Px>b԰R]Gareï].f$[zzsĪxUmд1J64X9^=pD>8vbB+T@(ѩ'!u)[1*ih]ͻCdjS,u^udҼGՋάZMQѷ,'iXZÙ_KPnQJ<tu̱7-3[H|7t7zZt3;h͵(B;9ђ1R>ѨNx,l6/]r$ngxSYzZ4Rxdɰ6>+t`ǈE+Y̛=1-H1v3neylU'uKe.jeB!OQ6WXKG$kNƩF6˨@C(,J+nEn DfB̥:rÒlpaԨZ90,*~mE|BREDKÄjA~K[y`-],&j=EN:'YDʗ[3-atŎ<SUoK1C<vcmi=6NjmZ9h.9xr(jЁ*KYE,.]) ԴwP#C^!)-Pf&˕@K4ɑH9tn&@H5nc'EiC#KmsB zƲu4XʽjW!: K1;<xAzӎS2ΓDG̮eŇ!f0KV.%;P~N~ɨT[d=~>Cm,MʦZ&Wˉ1:>mɇyS)XhP՝VZ/VN~.(d!Y˛M*?@[mjNȠ-(ʾ`+fU>ǅE/2ͺ~6C<3L8CWʔfX:8Tl<)3g'zRʧveGD_͟MZS6ҚsQ̜/ɸVK@XaS[Ś,zuHcӥZC3^$#+q)z9v)ǤО?^DR7?ba>jx0v?|v-=MnBA!hfwBpKFe~q0b0eS@,4~``oϾ;ɎT?3/`WM&-esu:Tx-'ZaoՔsY@:8~xͥ5#V;Tq6=CK҄pKEp<G3BfqDX''hoTJHTiѾdK4GrMR)<s9QRb@,JA(71]0đlFњe5#uzc)5Q1.MD½39՛_qvG$-x_*p>#̠Qwu`vui=8_yДtJ%#jҁo?˱YnMƼ^6|iK1iӸ,*ЊnÉ ukk-*DKTfԑ_8sQ]!1p~ldNi,̋>RF090ԗƥ2gCȗEY9΍rP'qɡ_|<9J[7$LƗbBV4|lFFiuo<*[z<gtaϔ35S>v|kPџ+7eV2Z#g˒cŇ=tȽWD=ȿ4pbIi6eh9s6$^35y*>?M;7m>;Ixi=r1H20e/a˶7IUAOI+:@H5,uխ>ĖdK$ĹЃNΙ*,DXAg*ŅѺ XTѬ1w@-'$fE0ANBoHyZjNro`/?4ɑB/C5h =S+h:3]ˡU$N[g(diRZn6ZrykUaͿBa~cĸkRdv,aFW@yȝOee3ūwAA%)ƺFўX~%UEǒ?nvaRYFµ[st.;lϣ?9ACqI)b<uʐQl|$g$s*AH5ՒdMtz8 1Q>*=s1$aqjb`U;ӊ",
  "wƈPf/;FG:)m:Qj~]3KJo9@΁BcQCYsAK.H6o;y,ÉҖi=!/)@5A2XҜ 7i͒EDvq%(7lŭ3[EºbOI6:w-o0W310͕0ltҥv1L/ʳAȄ`I^ONU^Ej;в?+Q6tL'+Y~AAqWlʰg^Z4ο7G!IwjKz]eQB=sdxN?Yԥ+ZkU-mӜX9P+GMV ]51G*ϷTi3zCzafFF!|aFxZ#XUgw5ȲQ8nT HɅ'8r͋?`z՘Ɂd,)7d_9'j0lY!R=z;T ƽVlbv+͎L,%X+@!TTR9=+D(v@cM~Y˟tGԑ;зq'ˉyD&vĖgX;=6B˯Fkscbŧq~A/h)1/lyda/vlԨ=*pm$rxT_@GcͶʏ&C8HԥqYYԀcrk(3?˂$l`TQ|>'&^͂3IdPS`3șpRŜ1ʲ &rVB9JmdiX-0Wwӹkə.zoKZR%uo$Vjin;jz.AkXJH*c&mc8w0pb6] >.8I~T<;̩kaz<2Զřr>nk[@$ԍS)6[пnʳ@ʣeϾYA|TrӲhOPǶLzW~vT/|$vO7Р5å5uEa|W<ҳfczkFǦGʳP-WNxP199t[Ӏ'<,`՛t3MЎ=cƊn~=xd1ɸccȹ`łċ%'N-yPr9vc2@8~k&9eɀ1p5Ee2ԭhճE`H*p̓ `'3+Bǋ]IɼKu?=Wh&xǉ+&!<0zphxRz:N/A<EMNCTpaW?$.8ǧTb&҄IIťƌoуu2ΒoF7,սF~2?,Y]+A ӑ[CtgLGPx!C_-rόjѺc1ЕkyU)jI:5FTb(?77LeevqoqϔdMT$H̼biZ:7%oeQ6egƛ@ҋʺs7*͘eȴqe#LqHTTͮìGÅ_DIrN|LA6-nӔΈaS=nyT.h7DyYHc< W&Jӡy_Z½L?akUǩuvFYsWՀTnCb&rIo^.Q:ԓqYPΈ@^='ƂB>nӞLQ-rnHP&2<B+Jfk3Gg˓ìagqɉJwx6ӐK%.6%p7k=BDuXYLd5<wCy(DsBtG7ӫI#7h-8M~Mz)tQiӼ@|w!lBY[bP$Jwmj|Sȝ`)k71,4nYͮN-lwlДctR:.A_ՈVTX+las D!)c|@'.'J4p=<-Y=BNXƠ! V,dpøgrG!~Ǯ$'IYb(D0osI*)K4n͖>hɯ]Ѹ#wA:RilBF 2VheXZp7;^2=а-(71t|T1+>cJ,81 'nOn/]̲Q%B+[#~pi'jJ.Loɖ!r7&D9qn5]s[(reͺCy5hhO/(d,whF0bsÉP<оd3~?XҊ H)4E5fJ[Pke.MHe0VlG/=8zL|zFJ)mӉ͌'ԁmMiW%(r:tf) aK,?tcMa@ Qμ.čt_A,ĉz̺'>bPkd`cq6*uqh!uƪ#8J:srƱ>luI(tJZxQkxQWeΰ$*f͎WՏ/<eFCyy.&,ȫ?[hn%3J",
  " cIJ`DțrczpHofTfaO`+-VKkBVyn[YxvѢ'!F7$.!zȘ>ÚKƫ*mGXe$7`F*_mZcpVVM^mU,WhUfBͰs N3E'uw=ANonԧM*D&2jN(KNpŜhʥKϒI0ttwY_'1y(gC|9pX#F_rIMQ@y;dt[APk|,,V˕etPO<6-<|%28zT5i&<>+@$nl&RŦ0Ӑ`37|fxnŦg1a>3Ȧ̙'^p<oŋ=qiaayL.2Ckyѳ]anƯ))V~2r(oP_%5УP[fҎgp0#:(vʶ6+4<_xǡVl'cƊ7IY>ijNn1Zm0Racj+MoLG' $d50mɚQ%O[oh.ˁ>:b'FZ9Js~BvoҒBU!Y_kS^ZŪcбpցt+Ġ/5=!GJ_W˸([fbYmtPʝ҉w,aõ3o̬ЦxjM%5;ʘ,c)Dg6I!τmiL6gz2VɾAIh^y?!ÁJQ58'0v^҃WFwAm5$çƩ(~$>o<(OoSR03E`EcUxWÄ6:PGEyj:ʆZxÔWKfC3RA`0NE(,p<ЅIXϥuѓ/:UQJ 8IgekWB̧&tSWSf%~_6ŌwC¿h4Ҵ**F4oKǲ3oKD]qt(R4sv~YӺ[;iL c7Z+~A:lS=3Ā)IRHϊHm;KQϣf];ȵK1l|?sƸk^:(?:b`FJwLe(#RV-'efҲl*1HYk#pm; -ϟR?c6q4ϪtnWM.3g0Y+O:NcWLJ.4)Ii]Vn^AJ3`Lʑ_gs)iћOMiբEYՃ[wUp?qdgP[aSͱ)dB-(dRWIΏO#@~j,5H3Lt$7C1ŗ҆2~ #yiB.-EUfz&(o%;OT+?foE:za&,LO1>ТRTYo<erD^tSӒiӫhf/9sAЗ:cY%;Ŗ;GIy2dv:4fMyKQ-C>ȞN'<Ցv)w'̄@cSttV1kSujȃ$RNBìyRӃm;Ћ7յh*$*L3:LMiKu;b,XĘ?!e-?'/~˟vg(ьWS.Vα|yuO(_!QA]p|f[bTʒ2z2#$>LkzKhbGƌwӊQf)8DRa~klqzT<mF21T?,%č.8˞'Z20#~q.T4PƢm8a.eNqѺW2G-|N$,FF̈́BxcC)2 `5ԐeFyq0˸<dZE/4qA|_@g=OzK>E`ML!2БtԆt.~F9OG'Boa&y-s5+N;7t̽8Q]Y&P<ͺxԄhn6rWDaY6>ω5ԦȀ`D`źviX46t̓h<xo-lƐH2Xv=SuǴ+<88ɽ7QηIeONEk1ԙ8Uu)92iy;Ga@D],C?vRO<s>bk]fWfzhE)B]nvͿnxAVY_)!Q<OzSV$ʳO.CbKD8?t$q̪ouh]&dgn.z/0ʹgU_/ItawFj.=-,MUuIh,˽~b6^;8u/7'J/6* .OS,$36Ӧe82AjTx%ucLR,ϋRPbMKKy-Oo|mOҸPͰ2Y:[eu`lʭΑԝEv",
  "f4Fѫ^7,p7kUV%3GSGff$@8$ȗ9=C>M+YB9fbu!NthUQY]Р%0c(ά(qh-ps/eƆ/YbyN/4cɠ>нBBvhK;̴'^tSˢ<8`R&dt|yCU346H7jLd(OAs7HTD^ʌeYLE9zS3to*!l>r,ǥme):r3Ê <yul5riaUy]Gk~eiɠsJɣe+÷HՆ .ASґa$c#j6x$ӑQcPG3n.а+O|v]Q3eaùl+ʢ) /KXwu%Qi2-]QVաÖ/O(Դ?tɳ:V3h*RC]ʔ-a³KLpI!M)dBϻujΑM(. f*Cdɟv[Qin/If<wsTZ)LFmwj%aNVfͧ8,UˍvwBUETDYuJvͱ9=&v3W<СŇfT`Σh+N@ɎQ.;Lo@qCl̄Y^ήk>+(0ч#!bnsϒMp!_rf,=)Lv2;B,:W&d)ӳ)vҖ`+,Aoiq=nAƔRAԴ./hYʬ0kDlbtB$KԹ~0o!1`J#%$/Q T71_mBÞ)ǁyEЅՔÉG*7'~4tѨ)z/l[y1qx0[_:ө*>EԛZЖ=2YdըTe+E9O_(Joн<p#Czc=jI'3rN(5NO`FИǡSpz63#WbOg4Z`rЅ6?ZzO6)lObΓK 8whQ,y G_SWux˧rnǄTp˦RbE&aqFFDQvF>'ʜ@AXhdE1eʒxђOmUFc8N1Qg+++ĥM~57@`Sn|tδ$jxQrXvaojyTs*:dn2beVʍԍ:ɉhi-uNўHAɈ*@B`Ц|Ӆn_SaAmiwt=<4u͝%8d 0IM=!RԡƢkrSϘnCuR,Dn͒j]yFtΗdŋf^, APd6[Щ~26^o~^_4gq#TCƓ̋P2C~2w2:J<c3SzoW,ȳՠȜmʉx(8Pծ?8vdȶnwHĈ>&n%˳WŘѶZY-k+Uv+Y˘aäg]f)ȀGȶę%ȶ%>M:RU4fvXmr<+ˋ02Njy%;EiG&ʾpz&t[D@W~d%rBk;hy518QKmv8dNȹtPsVucD,&Q_;1dKMϢaʔǞ7gT)h͒fo.0z-<_a;H=rhx:ʃ~x1XŘU.WIm]]amPT.9ydAK>Ѹx.7$c˜g`QNʁq6e%SLP7Xѐ͛RˀcǽeOPǸfҗWkb;#G8!vȴ-S;~h|2Iu[9оѓps66?Oya_~ҮLJaPR,GgL<#Y,ZAQd^М@OeVzuS5AO(pnoδp~BF:11)-rw0ʇAU[7O-hJOїTHRw z:V y-=AW?nNaLTtEwƹ^O2z!;F=,E@0cP~5z9Sohtl,HKLaBa-аW2UwKoZ2:Mȁ6Z_kȻbWg~!FnbciBly)xt>>PWa̐!o1УL=dmy!GKp0:Q;o͝W!(Z6tҿ,Xtj[2:<caT-yV;*ZO]`6O!Qd]D̜0Vf;$s~E4;Іm'յ`#cÌ& AQYrde<34)ԯJ'-'>^3vƫxFA_Y",
  "J9˨O=HYû?Kg-պ=Ǭċ̯'k256Po,6ʬMjΥBuCM0%΂5#Rq=L@NxFSU-=q0X'82J P̫F<m+skv*@^!+ów.W+2iЩ[u<P>ZR#`-;;6</:!%Iqk#5~tSsuÀz!r$HE)'?U7.P_QuuZ5.4'K]bN.WsϚǴ+oMmc:L--2)pdě/ʩѷ0QnkeS?ƴOǞ7,.M^8nĔluha2~DlQb|gtzptN>.S͎BysJ:aҿ^$M>ѧy$^mcuD%_)bVwsS2xoGC,ykig0@+AQӳx#0%%?/W-dQkqfRbuȂP|ɕ°R&ā')%s_0ln8wr0 E]K$YilS>2d,pVeKY>z&Xc=-hfԠ̦|c`|/ƒ=dAl|Z9)^6!u[F͆v`QQr!9z_OPһ6HG:-=oJSKÙw- ƘAIZB4)8&ʦHĩ6grac[ՊR8_k7~:]P6Gwn6EhH!~KgtzH<¯h_-sZom<a3# ~ʥX;1e)B̯z#1l#tCdXwgl>K5IêdL&yês|ʏV͘ѹ>!5Nj&1]Q+[1~mu3ǜj<w^vĆ%;.Գïf Ft;)528+0ɪrzɀqhzpYõpGÊ(A=Xчwab_#,xVxhSjz0[!T%7fǳJϯ0xԝN%ms7ΕtUj$6KͨOodP$^ѷ@bJijʫǂ@#o0rG5Us7oӧGlp`!΀WgćY5|~?i̟g;=_ˊ/ijp4x¿@)'FlR?x-<'-cĄcKν ɔ$4:.%vJ8#nWknCǆsNo<Vh>fb=4@w@huШ.]?34<3Jk̶V̡9/a.әEyN;hɎ^Uę:+Qӹ2K?Ǚˤt.= P`<=2HO/*tΪ&ğw2]x̜C1spxϠHx[2! UdMR2ǽ>zuAgNAu*g5~(kì, #3_p=Ë;2AbЛYcqխ3Y),Ͼ|S2,!L0DԢEp%)DAǵŀDZCzLPջXs69@:w4B*-~főɠN(:;o̻˺VK~ʯv2Ⱥ7JyY2pu-OeGxlhcc$ӟ[×x/I3jjBeṄ[w7]!Z)M7i##(˅:VUTTt7C0w҇[Ta#ƔufVMDvB6I)YтDlDwh*Juì Q>Q]`/˚4ԸV7YYd29MLr)Dy_yeKO#WJC՗hNTŲ~#'IIL5q%vQ$%ƵK;KT8J̜/>=Za.qfuF/''e%+-6ldssïZywM)7?)o3F[FAŊ2,eKpâdR;ѯw.eZ;:P#Rsg u1P3NŌRhʄmJ6AÜ3ZE4TΊDC|S<Iě2rȻXue̲^_%gX1#eT(-ʹ)`Hoa%3pS`3|))N>24ЂBƪs͏UПѿq&#d#ʘ)@3'!8~.x@XYͤ(sGc)+M|mLsv05?I)87[PwknƁN'#,uaԽj_ɧfHTVA%kˊr9Ձ;-DJ/'ezZAδ'Iu;Т0v-r5T#dxg%$нa.Akip7üvU5F[W>IŠ'L*w",
  "-+<Ig$ѷwfh/~Q[˓=BD9FR%̝9wցʪ:wct9B(//[KxYGsв#^Pf-;o3QrCv#2R)rs7KiqTYghtznɣq̔3-#^#Cu˸AX[/͜JiOZ1q$0FKʭћ=ayd[0ҡԍr5=IDR2J1Mdǽ.9!5_K:d#(#ŵHțo#=qZ&(:Cѯ)aWг/ĵ/5]ɦJĜPFckc'9F=*Z#X[(,>IG*w`HwtnGń2@AV`xM#&ƶ](Hz8ľơ][~~ͱOcяÊЋjr`Xc$HUӪ)og#QR^/sexYk%k?G(8/fo[#8ck)9kCGqt'yrs;>gR7WX[UyY+eAoO@~jȪxU?Q y(NTR: l5A:՛&)rAjRD[lϹT#&6Sȹ~/o~RZSvtTu60N|` 904I8Ruȗ̹%JѱHR9,º^#W5|T|0]ԼU$PxD`z:DYMtI ɟBE?0dyBjԢFl^1#)=+GkhT^X+͍UwӆEC77J(g?q:q56Ҭ[Ȇ/jKәŲLIԟƧaPZgnngQϴ(< qThM~jo-:IYuV(gW>y@=HM*aҲάx$]9Ų -Їv4o,˽5/r:>#J-gvʌP#ǼXP7YUKմ|]4Ib46jF|>[d1zQ`62kÍk.hQAK$tNzqF>NvD]qTD`ByH`q5R;:-n|r)ɰ. ,p?xQё]S=Jh6vR;]Rz|<!jx<bRZx$|vi8%;J[-|=$CsJ|-j!jSp.a:ώ(ojе!Vc6y.sSEtӠ&,_Rv4[`ӯ3lfa]gxgh :oZcN3>-fW)T*?mA7i5puYҷ^N14͝ӼrJl*._Nd$hq&s<LjD'!@wqu҇IJE[sC]exNVzPT YӲbT;U˛<42xg[3Gu_;Vd61ґQ6u`nU9Ю2,RZlhW˿6~Ă~tQZτJd|M1@/EH[&?ՓV)N +AҡK,ʑ4l AGh#@EǬtAx(`S*i?6|2(jѼl/f-z.=*rrƚA:5ZJ?D!zdЧllu+`s/XkQu*Br,|eh#UYÿ 2U7rajpFRsT7/,pYREE4MQ2.T 'dpԕdyL6$La+``k??Qcaέ_$EuC#W=zGC:EKo:$,:Aǌд!Ro6Z,)Ҹ?!қ2f:k̊'oK,7w+x0F2,m~PL,ϕZA?VJV;'Ze<)|9rj#3Kz@gE+saGUx)ջk8>$Ǳge%3ŵuGedlˤoJΡѵIOCz_a.*|Cykɗtͤy#BfQ_E3e8y,tA 1EMЙ&M7зFɀͱEWT'4CplKKl6Ř__ @Ҵiʓ]AW(c?PhIhpfҬJrDYpf(E 'N[l6A9;>V7BʦIPa`Z^ŉq4n69GoF9K4DR#XB_fyke˄O;23.1t7 _uɱqxJW1GpʛHϸ`ġ1<Jrc;PQA!a<P#$G)f%&ՌNWА_!H9Хw:*;ʰ)>EHj$wvԌP45",
  "ddf:/P+f@vUwz2Ҡ!rɖDy$zHuXhǧQM7ռIh%Ƙ57g0i3ǚ:Y?CV]2lFrG4IxE;p8#vTX])e]|<meZ.x/i[>2XĀ8-$ng&]9Z<R-b6w38685LKF.RlĩRmph97%]5 ʎlTYDN2$iȘ*ӕvX˥@jŧ)w-A=WO1~*t9ǯΡ*#1T~ƾXŲ8sOa&^FMϠhGu$ŏ!V'mO:ҌoEԐ@!*f(ъ%ʂz~ӈTV`̉ӛc2jӚͭ4aÒ'0_ʤIn_JERRđ!Ya2:9%QpC$^fĝ-8aöcGһ':6̛wp՟']9Ab ʫ=1dmOFWEG͊gPSARvcG+wkЭqJ?#wPt(C-ʽȀ$ %y,.1K-&H& nD0.keʵH?[N*&H$$NdB$J]i&7q#(Y'amT>KFӬd8)9ȩȞ0ϥ%$p=Kʂέj&d-Ŧm[Za4ofjHxk%PKZɕ6jՈb-%E;^Q~_;]-<]rR$EgLpXϢHL@.ї̕Vzm+KBOruIJ7+:>11J/կ.ΤMb$LL~G1HHCeeS65XĮEv_fdn_Ӿ)1Eԍ×-vnQЬĚNŶ1+K0T1<O&RDIwMz$OmSůk.âFE[A'&YeȉpI^E'ŞQx:8<Eտhhɉk)]wOca^ҥvFEΗ0Ɂʠ3|L-F#X,Z&Vnk55Wi>ĥ,!JDv:. cfi>B'e=#c!_ՄʲĮyZ`<]˴Ķ+.*ȁyD0bKYXAwUրxo;aǋE:2AcW<ȤVzԵyʶ4S([j6͉¾o$i[SsI)7]0fm/vD)Q?`%8&љ1DpЁ.Ȭ[ʋTӌ͜y#F[w_̧ bQ-D3DMzm[˹a|>z&36]niIx y*=H(T#-$^đ>ZvVǌ*_<DϘ-PF/: ͙g|+$*IA=nӡ(m6y/GSpHH1:K7OM!tvx|,uԄϾs'>mΣl~):Qv[X?d;-yJD!d6X0or4]Bї)T1W/&8N[Q0$F)<MQhJe-lP!zrK`uрX͹~hUC$a Lͱ+&~,7ƻː?~dOhKC;b0f-QfuBΧBĀ@X4vңK?ow$gFȃNK>roKKNK5dTru+ą.MO.MF&ѓ9ͰqTZ/2ӂ]B>91ΑgUɃsP4ξ!ͮOKx#glhǒT/n*ʮPq*o-oH19F̢csnHSC*dX(0K[dS/CJ',fӊ9~4U*PTdT.|U'%Áb(,=^0 ri.-^GgzAA#Icu?UP9FDpV2h1kҢ y9hq&d]zxKXCi@!5g0ik<MD x(K:Y8>ȔF+J'EU]h;B0=,(ς^Scu>^+ilс$hcҟcnoӣчFLV'l FN<bɡ.L?OX+5J̆ZXBα_BG$U5$eqUi*IY'ϐ0=Ǣ6Ƅ.!o&(J*MUM TI;/4w-.-VǺ%XbizoԅCğ%2J48C@6̜w~,64|[@s^v%l(`?2RPrcx-iá*~ZɠS`R̖$ƠMpJ8Qoe(H",
  "'1DviMjT7-fQmή~:ztҔy[^X5>srw([ŒCb#yd*xRǌ|rzl4g]CD½gҝ ''oRmd-Il-bX0Q`L!ȲmaZvRhr,=h7g?!s=At5Ve_B>]ε͝+?z0[JfZz(Gi27|roϖR˧C3^lKQjU -cspbӋuթs5ÐТ&Āj1$`aL&v@,']C@S/WAq$s.7mnvb4.$'7ιП6P#/-E%!0Wc%SZ]^*! #ƻrUvўBA3BkR>qjG??AH&Å%!ɇU79Ãp^AQ#Q(<3mCos:vI#$Tfӊ:tn[wą@6)RwxΓ3kC78l_Ƶ~L9жȏE9nQp&T'ĔпX+gvHQSËU~ULOAˌ%eqIe1KSu2+NӉWc#u:UNnK̍5Rdi:!-1ʫWqǗmJw+:k|D+0C?$jfÕv?t,վEU?V2,rv-h]v*>b΃RȭV,v%_iS.UAk;xGGUe3>h0gOʷKnҳPnʳt*:Z4xӤ Q5E$u%)gƹqǑe/mG;ͪ,3l9%h3y`;iH6V9__XWnUC<դӵo#EgdaOʅhDnƸ&9ƴbο~?=Z)0fD@^G,vˏ5r=ө[2X#WPd1P=6KCw 5I9-Ѹ%Qt@Ы%/I>[!c) -oX[~S)Ǩc&g+?n7B0Y8~ąHivgvg-'gG$_]l҅cm% J+TT6cTp8qX[j3ș0S4HaQ4<#`@I0]h]m̌F,Owx1ˀtѳ?ҼLe0FǱ΂1JOD~?XeÇHtWDs,2 h1sJRmOVwr=՝RPs=j1`2KQlh.Pq=wDf!wZn&q=]B0)ke'TI@qBKoîlnHfXNśk8Jd(iH.8d)ZNdO/|y#N#mBu9qJKC(Țaϐ)QdH=F bOdӇL($2<5ue/9Vy]BiFj̧H;G5&!TIX>B5_;^9DW&E:X=&f|::k5zcΧDб:9IG<M.6o/bfE6PФ'^EEl; (;~B<[2U*cɡ/q~u%̜<W:V2vouбBpvEǁqyRYZHT8MGpx2TUpū.mZǴ͡Dh6HV&_xĨ$b·fP8ͻȣ` -jfm^&ͰѓѴ|΅$N'q(τ9թ_ OҏɈΛeZMU8;/̋LbM>HP@4Jtc|)<[*v6sRnFO0`j/1s8ҿ~8եˎɅA8ʪăBBTj8AgɣZyRav~seQ_˘@K[k5)r˛vMPw΢(6]!Ae,ңpC;QH8@$vpXwǏ9lb'X_Bwҝj.|ȥlT>Ps!9@uuϺ@>a4nNTS33<dzMeW_UՑӅ)B2C<R-v$.2.'yz&ʗu=q$s*X'|x%Тӿ |#PU.6;Χprcyҳ+>'.#WТƚhLĎVI57ču<ŚzZ7W-DхadǢzͶэjo&Kl9%0JDmYǡffj/AFo~#:̬;2ճ]ξ0):h7QbekDt&N7̨$|,0hӿŧ͆>IvpA#Z+΅ĹI?$)m*a?=XT[(^,",
  "U]!?3qu:a[Ӛ+4IɞǶx/zmIʸ2C[9ҫ!lR:5DpQ,,p:Xy)+$_(E2pCcMg/:Ģ&9.5εrzQ]2z^ϴ$1PéR,.aHNEhT[$ιK^Җ5^_rXiϳ/uL-J+5&:dΕWS*7sU:8ϒ>u]9d $Pm.4ɻϣPl[ՉIjŚiO'e@ӜW@.^o)HUFKaG[iy2u9!/_vȿ#:'/xAYSUcӕ :>=5Ǒ3@x9t8j$PЇB&KΚadqM5M̌ĎN®X^h3ƜQ ɹ6/<tһRHG115?):̔=x]Je/`)SpEubj3C-OOjY`MA%՛Fe>f>VIuLQa|ǈ52=#Ƈa86oͦϐH;pƪ'Hp,EŔ h)Ͱb[ &ԇPG$+*wկn!չw@Ct1zd1WoXM>h:-x5x^UGǺ$]U:'(BlnL'&[L$ur=DFvĿe2C՜JM[ϩёb6΀̩Z0r˭6*9:#[a$<.CT $?ѢBŞBqQ%[~TϣEJo'^hmǔɈF@+efVVlӄCnW~D.&wZ;|pF ѫMӞ#1i'ZquoT7` .$ՑGw˩ǆd>asTFg'˳ 3VE0vWż?323Q̄m@SX+;ElZgMz`g|ƒV~$L5,BR&w,[Oj]MpQc?7gK2möH/#=#J>9Ĕ6FN1l(m]C2eFNho:е·Vʥ˺==jόn'EWTd>:ϒRs)ͼg:bzc38ş.д!Opś)rT=Hl˸Kq'Q~5WβT<_PZ=40<gaoDebR.6#2GIHzG>%PnWLc]u[r0(ccS<p=iC/&e('hvVmzm>eiW~tIՊƢXȵsvdx~aJ<pGkLRV ɑM)ApGfA/aRO!F'`t[>i<xhD^[_*`2!$vՁiUQ ;vI~!:ǡqaƱcr.kp@>Ō&cFB//(ԂqzmrmU0WR,0]nwvlsxhA~AԆ&mbRAhfÐՆ LmAwy=#hTFn:k2-΃@wae!yyS|3ȭn-3bCfcɫYlA3JXpjXtuHC3DLqTȻ`̙$ѾkDym8u K>R5=iN˧;˥FջŇE/,uS̜`Uj'CAJR$;,@=N9?ѰcʎȀ@&|χmXFG|d$RF8u2*qiͥh)j(R(wJK%ɘTw6(xǠQ&*F@ǲ+RIg̊8gġ^ͽ2P* :Ta,du/fǅt$<z4 XhjT3Hnz9+^ʥK85X)z<GkT'ͽizxɽsFmzE^(qYyg?`jopQ?ЍlEu|pl>>&zRQR!ȸͣ^Oa]P9=-WwόA~mJCf71JA!ϠLqM-1hhB,(Z,Os+~ybY#@3l2GURm=c@uI(:Qmq~'?644yZkN+f~P4h6Ϥ|ʄ6Nb.bI)SpʖQV|cb2Ó#OTģ~!3 Ń5r+e?M-˾ҜƇUIZuxdw.a@̢ˤkL^ӄp÷J[T!<]A&XAYVKѬBo%Ջ.'íhoU2tISK^l;'D`>5Bgqfl_zE@%J_UhpuʹNA",
  "лILQ |ap!.nuËc!78$U2nk)/Uc/GD;y9He0crkH/EBoT>Eʽ_ASQ7ͪ3qPh1˛KG$ypäVOfYŔTu~Ġs*IRDSw7KC*M'&ZT͎ѐ)#59(j2KT;6wΝ32w-qV#5BELcnjĻI+7Z]YuqhY~C[:9>#xFnmwXXTcvqOQE/UB%~TW?)ȇ,.1ROyIӱ9eQf3f=хmv`9[FQǇMEojdǘ:KCEp!JWj9`W,*+<:-UEIơX!tsI'*%<HtrymD6T0yM~G.ͣY9<8#0GzY],'qưp*uk<O#[6rP mn2į͡αRƮ@0H?u0%Kp5Mg<u@pgѰb2-,Kn;qhT+WиwcdrO|Lɼ#,@[97LE'9RWΉuMTzIłɱi*xs.+&|_wzp|'oYо'(N-oO,EX(,l%oD`@08xǂ$5^],D|j,AUf_:vկxU0:R?-ȐԱzKN(Ł]INYĝg-eG?E,/ ep/]X¿@Rp;lӃ,y%5T>y&i%F:-Zl2D`JYr2[20a^A(^P/ !fu/l^ka(Oe/U@='=!ԌʬNN>&lHȳeI`AҦ-5:ZXID%woCtoLƷ811gU_#Y?GϬԭdLLLLō,,1=oɱ>eȯK7Qšsѕi1+vլsJqC.;Wu!HӀ1qSK+%#Dqg q*~bVAD(j7c#ɔç,(,hJӦɢ#ǄAsC4ҸÀk)~6~uȄ? kS`#B+aO*Lů:Iu'k4+Ƒ˪ipͭ7ѭAPgʻK4(s+ʣ0B4NȸBV6Pþkg7A6,jmғJT[.8fB7=IoDm8q:$>|Һ-+8fO gKjuT&c_ӊ_Ck]?Y:ʫ*[SĈWNϋƭq0~TL<ΰ>4i'>Oyv^x20U*(kՈ:kEM%kN89F,ES!N[rlw&5F|4!V=|H*_4Nm<rdCwp_IZ-j̓Yˮ:e&31?OraXł<q~$e̝?@tǔ0KBpru[PDKK&g4AFbkEgcHLw_]8HD¼1dLt4ĔlqY==@ htJrE'v#r7l/q6ź6,Yʕ-I3:LK$O. nk8@&Ui_ЁUùEqО@$2Co$^EkTJ ʩ.7S?m~>Ξ;i *͂n]*PW&h@tky4B~Ez6ΛRo7ɞr&ASʓYnҧJ^&-R8daBǤD;4VEԂ͡=2|/]]MOz>&I&/80ǾsD;e[P&qh'dQOÆ6G9ě)J&Ck.H;3(ΐykӀ.l=1kQ?Vd?JTe@EarK!@zfp<|`_ύ$3!;:N7jj+:2R+Up0jXVi^Y~_Kl>Í@e.eDbW6~ύXbɧrSͦuuAojɝ6(`;2ϡuD8%'ɐzHXIТe `3amd:0Εt2Avʂru$e`^fuhϸw5)0-JfK[NtGkżY3Ds~K~G18|X.|'ҫ[SOEZ:fXƌ^G []T!zeˬ̦A7?'Z|lϙ(D>Cҿ^ΪmR,@~A",
  "P-*W2^GtHлpҏ~;K4pP$!p=`8szʸYX^X=de;<8Mr|=|JHMgf]dSvhȔ2RC.37W՛'į2˜!ԬQ.H4԰?2mnj?6` ӔĂvY__mȈWhEI=lpur[m;җW-2xЖP>[P=o+i[Ur8pOt'ҹ-''qZW~pGϖx!k@|t>rM)š%atˬw/T1a.w_zlLD<BWY*ʩwb5MgĆ6 WyU6VյFHXjp<)X;A+KRȶHZˬeIȳ87Ծ$$1=FkcyrՊPc*jRjL(zao/zqhz.y?X3MU<!Đ<EsPso4d;̌?4mo3D]їY :WΊLȉUu)fxZȶj!*,[]g3nuMR-ҥvuTCT΢.pu=..)OX.08H;wQ<SrI/ĻtL'HNC0x.N';-Y˗ȰԼA4H`l7OƆB.jv2-dHnHwCSЊԂFBEӟ^SY|]EA8|JyldGϩ3e#]kW$yOQ:84|ŲWt`i|F&$jpJ?hE;m4zZʩc]Y(,<v&Y˰2ZT``:v&b%Ӡ_l~N4R+UVW,#ƔEu:aP6BP=Q?ȏm4mјU&IƛL̺<?v̚3(j';Hcn6F-!$KՑ~.#C>HQ78:tpG#.-'<I(k|7ĵ2T^q˔~E+3/ +V!P?&s|FlYcȸΎA!kZ5d2ɷycWzȽZx  +q&ԯ>fϸ#YhŰ<.agFgB1C;Z^I+(e˥oҹ-AL|8 `t$Ԭĩ?ȴQW2ոPHZwBGhӨ,ОF5bFъtº8><ϟÝlu[`B-à6an,52Tr@ug1fan/qv@!i! Ԡ(|)ple7ʌ|Sѫ9!GzQon[GhXITdV4<3Y**Erc@V4NМӘWsX;4J3qɼb||rX'Cov0ST2+NG.NQXM;T<,*ϠLZsKah%(68LM.|qEuRK%*g%ym[`G/˪i5bdJ`R;0*&z=rɌ!Gqq&Wg&Lp0n;i02f@?&DH!8X=Q_ÉNgi1hEWĹ^vf^͖ZHLMX+WLHGˮv=wcB8@HtdT+m+ՉpM'uԬYB>ͽ=Oӕ]DUj 11G 15zNm4ԸZCƀeM<t+AǊ˙_^)53jZbY-aƵvgեYg3SjzĄICaJF) ԐqNThbQyh4Ӝ'kehS<+p.0̌ry[<o8!d[!Ϋ/G@Ůür_:Ҩpc`w<TWѡ2hjBXaԻʅtSKΎrUuVa|v]IELVUzZEґEyǛC.,7]p+kM4PBʼc#LͳZuN[li.%ѣԭux)z=ԽoFq2bR&E?^x6+2͞JHvI70gJ@;ƹ@o9R7aQ~j@ñTl 7, ͱOl?$PHXĉ-kS8AМ1И1gB/APw5Ǥe 91ȜJFyxO=) y&[*5<I5D,ОBRBwCRH_,AiT̃KfUy]vhAo*b6Q8'(+NӷshQ6VAVAcNGk<,=!PԽħqbhk_w>kՎkKkQ?OKQUнұ y_GEu+r$diu҉S",
  "dӸ/d+aS6gzfώƔzVE5&э]iLxv.-.;%~zbXsn80EUaWvt2]Ζvn4l@nucG[8Kj+.sGG>gi](z(J:9d*Rc82/N:.IzDEQOlFZcɶa=%_oAҿE3GU::+PxϹumZ`45GMfS$~7'Vb#»`,pżR ̭Af~=Lpk=DqiTC:$~AÈtq7D?.>W~)xStϋ*7̽aHSAΏ!D7ЬXx#LͱW/b3ΊlV̠+<ȳ|?Գ$)c5e&Q4/NpD0Z.-H%1*VxdRĪNVmP#>qWUA*AI#,J,CνĭxȰazwELL:OjSyY*q2v|4zã!+5Qyϻ`#ii~W;,7Qqmw՗:HbF<(z͸i-(rʫgh#uCsyC/XKOQxUăZD>ʵϺ.&.=Ę8f`iT>ClrzRv¹?++Ut#ey`R;O5tHR]RV~K̠s)0qXˎfTI+QxN6&rQq`h2A>nT7$n  ^($2νɑ DnR!Q'ү4ĿtƮ˝P%3?7AeYq[*M(OPKȃXq=f4<ux4|x`F9O?/J3<-H)>Gyk̡'(ts6m:tzͦyrB+NS 2nnćK˲&=YRaH+3k::(gђ@vPՏ3Y@H,Ֆ1(&,,jp4ҙ˰vw$:wA9gmQ57@F&d7%(l@45h˿[0ŋ-y>IFfc1GuДa.̣ɧ$wƿhԀUwDҏHVЙ~nYp4?DeexsdAbC_q]wЭODX;kaԑvR5j f:`ʡ;7n^r4LVv9J~T5ͼ?B;~YC@ ͦyFj# u|&h:`me8ȶǵTKVAyғMXX=BLPfQ*''A˾X%XxHx͂cë<)98WzhSl3J_I4tn3pYԃөǨDկ9ԭϼfqUJ3ϻH8F/fbM+zDOˌN6xt%K(mk/*ͷqNCԧGPƲoswdѝKE#`3/'XՆ<qdHLaGFUwnTɝ96,ϡ$́)OyJXYM%F%U*˫uA5+6̽,]_#U7,*hŬ.3IqѶÔ7SOԗV)&I:QR!2șԆ^g]Dб<.ѫ=*.N~U2Դ;#WZ#>Rld&NIMӇ%PK>ϸ&tY5VWǙ1t*#fdņ@Y8MNBʆDSDtZ&a,ΆWT2`ǂQj`Iok3RugJ3i=1=^W.+0&x*M)!g6l[%]PUD̈7Nwmė?>8M3;xw1=iʶ϶ŏS0@-.2DQYca$gVe7bwZ<ŵYk=KVgZɔ!R6ʨ8BEȪSʬyHR>ủX|SegЭȉ%2bYg,r/Λ10HDKg;@Ts5BG,o&5I//+ˉ?Pmjw?I+=0 DIv(dH9?;FɰWoYeĭJ1,_TW#|(E:kuf_uSqH|wԉC?MĩLÒscҢoR+(!)QGTwv~)(iцh`lTˉ1@xUoWoAkW:Iza˓BtN0Ŏt´ҪЭr`mdgã0n+J//EL>̅CXKΥiEZh9>ȌnYtMpdzYZGaRqfF;egʪun_1<Ԯ2Oњ]eD|ѹ_2!!;re,",
  "̂cҷ[M̫8fr9ƪ<GǎD`|qKH &:FūUsҲdopF7O'dsQsGFvmnϮo?vD(ȵc)uĆCMUCg?()PSնʶb`YLeLT;3#%SCnN~PpK5Y5*ҽee?ġ[_1Xе'ŰMgZcfk(<!o^oc^1Ғ6K`ķ~8%w$t81L:Ufk9[r8 )R̞o!D8I=kӟb:L2/QR;^~`C&(iĝ*ZQJ#i,/O)KMKp=M$c$9Kyl%VFDiQnoĢ|8f~eH~`WmJFi7`l.е?N)G23|4L)v&qՏ,gγ],ʪӍ̛9kղoЍIѐ%3LQ`Ǚ!а;E9b|6iȌd#_dhv$u!Sx3J|ďf#ǄLwTLϓы_2/*qD#j2(x#%.`GђCMÙј|:#̆ɛAKNo$EDImI;e!mCB˳v,oyie!*n_tAqpgFʤ7|m:/5̈pv>%''Ӊ:5BϖOdWp;H:̲!-Q)cȜa0/O:FI(D7`=Vtg2<Sd̎ н<=/w)CoxˋBv9&ȝ9RSc9raN^?ˁFxnRr)vҧaXўZ|'#f-7';ˀrAv0~.NppLN8xJgTōC6;;oӗttZ+Ͷ&SǕnbU-@=ZỳԺ%ɬTf_&g;i(P+ÏK0m&>Ay_8x|uV[1RZZpņ̒A8Qg~lu7,$[@*?QopaCwpƷr/%W%GauՏVS57k^6BH5x̻IUMb;:CULT Q6ZziTn!WͅTU԰g?Bb+h $$(GNu)>-xW;y=p<tm;zjIth`-isS[8IX9u396kǘW6h=q8`i.>ixa:fĂP+*5Ղ<ǄѡG_?V2̣HjxL^+!=ȕ7:@I;̨΀lҳ2X=Q ÆGſ#,Qe6<DIb̑ԾytVRr%v>. xr)qmHZA%Sx ɔSrD%uyI6*LL$tu#oӍLͳLԚUǋɰoqǝ>U]8՟eHUpjZ]ήoʬզEl3łžiiB.Wm-k#sȐn:Oy,M]9kvB)diɿ3tȪldEË6uwLMaK:Ԍ9D9bխuB=#@d'x'd7jNU0f6 3H,#dv.NC.)AU;ȷUdRo+Š84XԇQ̷$bq9Pv72ybvZfc@tDxaBYƴwƞ'<ÁqNDɶIĽM̥'Ҫќ_ԅXJq2/6ohˢƔK[ijz?]c2xтĐ?9n'BN@dK,ÒʡO1s*AE~Mp-V,wGJ9WW'ӳt4t*$ WxK(xvz[I#'fZ7e|!-/|O,d^2hГѫm8;Z*,P:ԲTe'fe^NJͶl5rP5iMRVՎf^LQЬUg'ʀ]@Y2Lfxi[VZQ;ʽ GŶ_pZo7-g#+Œp^+1n*QCFƸei7Y%ZoŅčIIlpy:$2ht;U[àFdU&aQJ1kxIźlb8uǄ&'>1bZ8EjɔLǭ!Ӭв/K0?of=F=q&n0gjO-&gtIPm~PK#$'a$Nwr,%U@r~c¿`w/f(q8*ZtBUO:ÜPу1kq ^̒e|˳tnF&EB^ckR",
  "cő.iJ!(;9?/ɫ M-8=Nűþ˦!#˨d,/K>|A+Pȓ]AP,g2]CIӝҫf:sLHs ˘ёBEu?xrAa5KKE4+Mǧ=å5I4E:d@6fmH7&4yjMϵ0]ol_$;UrDawͦd!T̕3кnA!5PvxǦ]Pw(75Đƍ]TEǊB,0ԓK~j&qгv-w]@aa-MlyR1 ʱLͱLr#FZ^U5,cQԐ'~ŔyKS&C2g|ǬocG7JXS4~LЕ;UDqXjJ.C@ŷy˫HUhw)Os^ƶCg=a?_Ѩ_n:H3 ;FYMG` b.ϰRs7[j'a(&n$ubaktl;zY7ČF-!.$m4RIջÈ9O1feŦMƌmXfŸ%L<+R,ǟayGʭg3xԏYËÀTS.7NȼwcÉYR3nȨ !My<D~Wt՗raDv#$NUyU/3ywU`MWUS[e)Ƴt2aCj!$HRGA2S1IHa2ӯXQ7>:q*Gv`WAO-1Up*e+Q=?IJ1+<H:2&-WQgW8'ŲNYuklk]fu$I)QJVzkkaZG.eʺCi/45x@&Oo03eG@/ͦxT7Ya¶ͮVFkJ3c],[=P2OyvP%҈qaϔZn+|ĆǀѢpvQbOa6Y!LWjpԀZ[RWi ǚ:S- s[kVE$=3P%fJϹ%_^DZ;y:bA[+KmK8g%9QՏtĈg_)m-:neXc|YL@)S1_s|)7A*9ԩ`Y<->sh.ej;Ǚz*<3UwZR=PL2AȖRYI0<|nՅЏѢ&I&Ot96;GQ)'FjMc!r67'-h=OQRS@ (VǪ]Gt!M=5cŤ<<|*9qp*a&f5c'j'9S6+-/hR afO]մefLT$?LT>)&thå#ge͋Rv=?+m-Ym/ĬqrƗzϻ;V~@k$EӝcJ/5_uVcXPKS^YW^|c+in͓zLwP!ˈКj[1!̥&[)9(NdRPL_zy)QH7$ź:ptQ%2T8OI>$7e2^m7^jVn]:ϥՉ~X84t6e`)E$Q:5vD;҇O=RoZE!LV[9sYQ)6lˁF@ԐK3VFwah+NgiwjnpȖy;frYSĵD%e+V̗Iznĵ-8~9`&t?IH_*/Y<%<<ǈZ|~X7Qͭ37'h]w2/L,y>ez8lk+0(Q0GgȢm̈́n^o6P@ c%V^yh5NFoAù_ҰCX+A'OkoMF0DΙ>s76~pçHrB,zU%;ј3M50?e*-t U<+L$S)ZLQu&ihU[/K5h^^VeϗOՄzuI(EPbK=OŸтlG1Xώp9f!ǟi<f#4;~O$Օu|-jЊIv?PBX62ʖǆUQԱZВ67/5uj5~qrӳZS#ը,9ZC%8k,R'5P?,5R¹:Kd|hJKU?)h@Y8@/.9´MqY+<lu!ǽjvIZ%xL5$<ydMgbкh`4̼2D~|wӈN=qŗΗI,8^4=ƩA>˭5dMS%QΘĥ<^M9Ub(>d))S0tE(tPk]iuӕȷɸEK",
  "Ý2ZU6ʲO$_~KO͵YTÚHҞJbѨp6?Wm͐A5kk 1εŻPոXhZźIω+_JSƊe^̭l~;8M=Ozkjh>b&[E+A!9DmҾw9qƣЂ.;̿8X:cQgy^;kMW6AG@PRGsBmkD/``Gg?UT[R,TsUy@_9KT@0'mny-KKPл˙·tekaӴPAx40wDThowMΡ[><6$2<ҏ4oUˁcPʥ#|Z·IRSʦzSO%%lb3ot;FȦqQbsæe`bƈ7wnG6WrCVUDioYQ_CQ;V[DZ-ǫ.UjU=h˯)#p#%3G^hH]lΐPѷ7ILIͼ?f+]üLqȃ˾4)K$QgfXi#O6[ґ/aɕY+s*-bʙs^pI_Sc:hgġ65NyI|ԳH4Ĩd#O_1ԇ>allChiwWUYĮ!1|8w13mʅwE9Mƿ;ɺx7|̎$պE:-rBUD&Ϳy΁3(sn̅ՠNeƬwj(Ċpiv#uvC>đMxOA_p k>oOc!6h(R9qDOG4ѩqcԔky|?w sd(Y7.2&zffMgH;Ie!DwIXOԓEŸa LĽ̼ckjOI>^zTKh|ĪȪBB*̟7I/aLԡk)*ƹnd4^<фfJ/iaSD][rEjdx]_+%RhDԓaŨa̶ͣ(AG̜V3hϵLoˢ^#y'm@E?n.|EՈV.sOJHKXlEPԑѩP^K,Ɖ<Xzmh9z8ujˠk3Ε;q(ǴRJӒwxɩ(ΞCΆ/g<SPQ;$Ķo+Q90ZSc>~_C~wxRCWM$5!7veFvw2QkfSz@ӁCZ-Χh̯E;6m>Fә-BO_rɤA$6Lm`9ԂhO:Q1D1³y=l8S#hVjr/ӍNι=-b=iĈ[]ébTpKi`!E+)V|l.^ZEHu5[4՘VebYIˁTPe3Й=8K@ҷ3Wxs#1XM0^=D0ͣ͸r˜R̰:*҈ŷj_:<!-]VHЈѐ!&!phϽiwSi4fvXhФ˘Pn#Ho#,ĭAg@:w ռX?A9<Yќ,1HQRXƗwWtE50/L'Ҹ>KNZ4~^[$vo5`͵(u-pKV8fIg/BYX1!&s͎*0<ƧdL/rG|`ytod(%_d,Fd`gc9~g1cBud4Ĝ!=pʟNpGʭAbmPCvf,L5¼?ϑ+>OB0nn bYKC(;SAVawţʮx||*#m$fNǟbjbLB&ʤ_8QgGt2%oJ WO&Q(ƄK7Ǭsp΃k66;?N1c)+Fk@m0BƴCdt1.~wU~ksО0vʔbZawSfc^b'[^&rR̄MP Ա0ʛZW.$=c8ҩs7A2^&žA)0xVXdBǣs)L-rsk3uMН̿VB϶S;jgN̼KGlOo=Faˢv6J¿XCͩУAxUzɢdj+վ[YsNxdwɯ/>2n1ϗ6,Ĳ>ΐb*KWCd`Q-P`T|oq j2(PrȧK|ʸ̧P;wQn.JN3!<rҌ;Xƈ-lǅXe]aҏM #ɐЈv=a1ʅ3 BŢ7<nL4(G)r9vqƪ[ä*1Kˮ?R8@ZjxY̶&Wguxȗ",
  "mω*t>d0p9WJÕ>iNHwLV-j)p;%]pr͗4SQnI<AfS6yqPըoŗl*M8ύ0<oVPCA%SvDM2q3ŧZ>?)oPO9U*afLU(MFiRteszK+IYw%]F#v,l@-QhK!KuvF8p-9ȌUX(g,wGg'lʹVYƿ3w?SzsFs҄@%_S0<bV_̵)zZ@JO͝ UhIv@zzX]uYͤxhHm;1~2LsTÂcRqgag@ɐ-fkdμʂ5^AŰtwO]Ӭtw9WİP_ƄC'LKMR;8ILeAУ(P4FIZrQ)՗0t̡VK~Fk, /^T0cĪc+y=-z5ŎhLVo@<iaįnbMoI$E*)C=PӫH=tz6OÑHRAgtL:sέq'lՁ]%~9M<#Hbc3b-]6Ik#lXR;Y*_ctVԫkϻN5DJakԼsǠ& dq̝:.ȑΫT@$Ǟ@9гlY1րB%pRYęk5nj7Ք:1aYrR]ʳRΞHʦ:-m$V'w=Ty@T`^EVҹ`t]Q.wxb b/Qg#PcWwAưȼ-SգtBzWS5IiRҺ=.FJDL+Zvt]-IbyG%/zȬH~`F2)Kљ8=E/XSȢЎR.~ȯI.-D(na~?_6n%YQ2/57s(]'i:$-45ao$LC(Tх˺ǜ]@l>ʒ&hFc!5Ն45Z,!ʆ*[B̚FI3*!amvvm&lZ>.E1#˗*594u[*h+=]O/o¶/ckQFtIHsəeRX9МRPsc_w?<uqhԫBfjWyZ)K@Ǟ.@^&hSQObQXJ?vo4O1vЋcMB7;V&qo>KGMOA)C/mu3~n,t>AL?^CO:l.$|(-`180[gӞ,y%PN./H`G8 &hC6|<Չ!mN?Mb|f?i?zW+Gxrvz7$1o=/kxhk6|3n7Wçw+QuH`=gP(r`^w5O:QEFs2n+_ϋ=tE϶_'Qz'rVW^Яi-=Q`śVfHcP1nԶ!T<̘GYȃ>ZwcɊMͅG;RԎ9Vχab+h!#bxWʯHpu:CSw3f)6d;șǛ|tSvRQLa0OĖլ]B?kt99s̝@2Vqdc-As?WP!oT8@0Ʈ-ͭC%lBӴ:͢o7*r-58GХ(kxE/WůlC2Cr#K>I|#$ȳe'juշZ@d3ӧfUc4Π>!mƠтStcov!3[~1myt&qZ3Ѥ'&'~)wjԱYvD8REB0`rɱnu5k,q45DUsuy'x0_C3ep1ǹ2Vp|LbvлhAvX1̈yWdy+1(`t)m'`_3y9.NOx>/g3V%isSQ[W/H(Z 7~þH8woo1$#0QfƳ7>~DАkE`VpVΛ!LU`~l+DnW?ɓkd=ijFA2`ip(Fq_#U..~Da~~A5apBDFҿWm:=k0Z<dCf0^Z<kմy;²u[eYxCK,^҆m<GB(z6j08<@FYӲBdAX_Mm7%43BxpHhB]ÌJo!c4_Ҧ?Dɳ#<ŊwWdYhv8<&eC%n",
  "zXc>G՛eöS:C,ǌ^=A6`kOS|ϺX0ėka0Ҝiu6LYͭ//^l+Er$_&էǬÂXwpyp5knn9vuխP!Qf=+&!DBMyӐIXZqtC$Ҵ[lȌ'&Ț!%mVDRq8ɲU$%=uGoz79wC<-Fvx~sƃot]ǐbȫS;&o[pÖzPgsҨhr/5FA=W̝Ė~?TRp-S̕!%(i8vO&YJfN45,/&^US%=M^<r5bO=4Vz88>AV*7:Ǒgfo~ca<DEğSCjF 1_Q@;b,`Q6̌с<Hϸ J<FtP]cKcy)pZRd͙JmҪ W31/+1)uEr;o˾Po`EOtƕɧm12+:x^?E19&͈qn6+ua=~+ pc|;$(M.!8oү;$TOI՛qrSIE!O7Ʊ!qn) s+/ӓWPApQK@HηlebwH3lYrK$.@1g3~/*<h(CϚ_'r*Ak8̅1@PˤүiE.H)F(;̑&Y3xRD[m Es2ϑK~f+Ιy4yO/i~>>r3ȓMӠ,L`c<#W8J)jɴeEj@ɒZa#й,u_S-úqAOU2LF='wJ՚fux;6dVf̐0qkՒ!~ToWϹ~M!pDXP]Dnѡj%wI_@2ptñЙ!wsΪRkG2VqoY3yFnDPјs0o+<W]?5΄D7W̊swT'w5K* qDuX4gqm4wqX,3?1Sվ3fe$/˜JzmԺ,vTnXhZT_1luZa^¶իubN_W;6tq!V,&rbqi1UZ|4&kYɛ;TYđ0YȴN!̤#k24/Ӑ9M5RԜҺ3!XյTMrBUIKo8U-Bty^%=7ƶ˪ĳ>M!/^iДoUbD-Ǹ1i65˅??'-=NU̹T#9Ċfy)ÉM<˧$@E%y1D(55*iĪ !/NE0[@M)..MvQ8QU;bҫȾ=c$JQ$%X_upDG@X#ȃL~ǚĀ]]<ӝ҅$Y?mLm3YfoѸj&u4P3dgFCGoԐTHKәkDù^-gRhvbNJ`c͋][&'vF7ɦ9<bSKr#9q2B1IZ6ɥČNhokuRl~^dbPWZȪD;o9az@q69Gc_[9Sv@ˡjҮx͂HD|pEAͶN=WԌ>_`VgP]X<`)S³Q-N=Ԯ22fԪ` $µ#7wRhӧ=9N,Y]wXς^zr;$vPn_-9͌Ⱦ̆d&zSq#ZJ-gj`_ϷvHKLnnǹWO]B|pa]Ҹc*,rWάK(xl;̦*+2*ӎr+YCr$e0%<!άnԁy`X|ɤNu;n=#C^ILͳ.QE,ioZ1o :.^+r/DX`u[Т+Վ_pz0ϧƐ,xnM`ua42'҇Ct?rϨa/G/D!,Cl)/.cVվoOƼ/RFUTQ)&^Ĳv*/<)rw!NbiKk_5AqIǡ6J.IzkηƳ1Cc-z:ЂiWj!uX0:SN@Z-q!:#/X##h^DFh0f̀c'l,>sL/>]wd^beNbJ0/%zcrh'[x~96Vn6`Fp.goOno=ըըlqZ](luZp˴dŻc%@r",
  "'R)z5ɭuoICOgǔFfGN%˪]ÓU=Iӊb%6_JkFCD]RT)'^>M5ĘDOx1*61r>tlU:[QRhlbǞ:~ʹǡΫ4:3nL]]:P'Ԣ:yq@*?c/]WRš'B1*?[sa*Cʮman7Ze7rHq6eyU8  NDF-0m GkR]Hf;*/F2Y_+2+%oSAi ^zK3Wrң!՗/ 3kkcϞr̎(HkYTV4`oFӠ+ԕ>zv:k')7жlhY|ST-LXEOϢ!mo>FJ~Ԣqj7i;ym54s2ibpZ3Y/hđ'!!ѯ*c]j#I@ǈ?~H'lY=i/Fʔ2%/nvΡku1wM4C]*xgA7`_6f7Uzr*b@!6ż]tgv.>xXM*>/*|Ǚ2#E:xa2nEέrsvVѮ8/~7Sԭ[z-ʴE VU#ǶA*!(75c9FY~Z1FMABT;лdGnWZDBuiy9$;uQywfnln;/&PsqƀyZͤJM8t0G$P |D8Ҏ̕Ϻ̏i+cYvȍn#yo̫;/bZPklXgCҠT2WщGM5sV~Ӯs&GÉr<'wR3Jr?I3wo|ɭ8`ԩ+Ȑ=YKb^#+,8H1tΛ'TtiQY./3OD0IO96oU2NոTY>DՓ=o*Mxn$bl¼s>D>?W/c Q`sK˺eH]Z@̼PX#y&]9| QNUVONH8tix-@4@c*OдE4as25]k+<DĨP[gt6*rT~IFWT#Ј?[9 ȴ^(қEkӿO|ɝExM.u`~ЦƗQ+rPnK7C~Ǌ,ϽӟX>,xx~[͚Ilu]w5(VRWdC/bDLs<t*'oJϋ8yΗxW 6[~w-rQpWe-U9b[i*ftmʅ,mBe7?5)D3iÔԩWB~FVqNVTddcӄaRB#`>Fjt.Giq2rUMLCϳZʨ]#c?oJUJ&nɁɪU*WűVʉa͖X@Vj/ljwG_pvL)ysr3o*о,r3S*[('9TqӰdӟ-=,@C0[#x_Z` .kArbsIoCO7ҡ0bqAÁhIMWAYJw|S˯F:Ǻ vȝ9E!.8X@O,KӈWKa7)ӮPơLQq66<Ȫ mCҦ|eu93oj d~uϑ`OMD/YʀI@m<ni8DKB<Sy^h08Ұng8/h3zͽM!z.WX*^x,|]Z_+meȯʪar[J[<g4KSbpQ+OFqG>#1 5*8O(GwCDrʆ!N9tw5VI-![=;/ӓ|wlwv+ՠ<ɫ >k(g;uQJ&<΀ƫp2-.:Ҷ=ЉX?~D<K%ǣ:pF=Fǖi.jpōqE?$-xQgm0ceˀFJÃ4.Y`yj=`HUxƩNiһu'SoY># %HCZz~_,Ջ/ҵO|3Z&GJ`[.ĮHІʹ4`hizd=9]m]EţƟMŸ=XrĴĴ$u5$[ 9Rg|G9rqk$Eѧ0*/AѻAZ̖Ԗq#va$KG΀5ʆƼBMρUbg7:~s1x&IiwJWdA|̵&<%k[EuhWfKK<Jˡ.-z^^ԣ5V՛Ӂ85Z48'FMcQ0OPCi",
  "6&ghk>;,L*iq˳~.X7u3FPR6Ӻ+s1]B!:P5*1ՒӤ0>(IM<e̞c:vBi*3ϼbFP&ͬ*lMn҂[@˺>eNBtR@ɣųRBTK`j*ӔʌʪϿ 2+w3gFɎÍY(Έ)2Z`s>ZKfXL(NR[Ä8Xĭx4Gl!]LU70K5)L7Kƶվ_iKG@!M^1%h,҄m'Ϛ5:Tќ!zpTQJ(+eIOtK_m,1YLm~=wh8il¼:.o+vioWȇa+-.5+9zзcdllqWW,v|ʣa͉FfiSy''Đ9F?N'[Yd#:rA#ԩfM/qǍgK#!|MUO'R6 J8̇0ձN#SVыXPFζk?ΏΥʗEq%DQ'їM?.ǻq;&u*Y=l 8FNag/Ƒtgz.@oAp-=%>L'6d#B;m]-V$0b;3FʪΩDoʳ?BaTD!Ǜw <rCNB2ȴ-jh1].|8(ƴ|-KZVIbq)_=.lk22Zȫգv;zAFA )]Xv=8;i=& Raj,kux6QG9V_ӆ7òP=6TԀ_Uh>uFRr6cFs7+/E@Ą3eQȈWKC[F|RӑD)&vekAĶTPǙZaG:uEJpyN=L)giӞgt>e͚j%2~YKΜԉZáϡ&6yt8+sCqåi:zF_hU?ǃi#tijp[)ċ9']̓CMѾ zUb:BS=,b^V1dl#m0T=':ȝɲzS`/fff(W$NfЗƸ+P·̥XĤtЁΖ,aMvEwM&dї_AcRBj8'[ьoe*zR3[_E3vCe#x_+P̋_ rm1m*=02ƓF|7bkL^)Nsϑ$![ot0Mnql-b u['Wӕ<lR!p^E%Nt&N*+ˋGŒNYr<k3-oNh3JѡhrX$Ys?/P4kV~(]aT@;/ՐqX['.3Mct5<ZB;Uk&hHъ$XIK4'?V)˞HcYRO'qKxH#cHA>8i_FÒOjrιuņFwbNµmSŵ?[>iÈmkOwTa$e(JJy50nspƌ|+ͽ|3ԧuđp2HFɘChwY8:hDΟVeր:,+ɱ=+*Ƕx'˔H43lρ#!uR=0_o]qL_go4oeH1(DuEӞ=x0Sl<&%0p!É4/&gh!Lf|ZZkՃFwt'o'yxTɨ[ŤD)3/8ʜyHIFI<vPhсD1O-%oi..tvMH`[-[$N NB^8[ԝǁq'AT <93 Ԋƅ~dp`ɪ-N~VsE̊mmnDNW6Zɚ8Eη(AEȂГd-F2Qhȏͤ.ibsLBrÒzA!Y7]`h!R4#,&L4Z.y4rԏOd[y4/J»2Әr?Eǘ2ҽ]D$nd4yIFMtq@iΝԲv<%LWk|rUWԃ<~l,~'gϏ|yW3+o=bxHTo:а͏/WN?jp,m,$2W(˸?jd,˜ՖՓWakGYy`2vӏHgΐ5Kѽz!#Cyr1|Ѥiÿ:=9ef4..cql`/zVjSn*CtRÛΧx03?_ÿakń1R.A_3IUMW[;h3kdf8ϔUe*Q%@ci?O*[I<R4<w2>]",
  "E5L@o#s0)ՓGʰ3q[Ȗ6l>~(iղM[~կ-j;C>j^ȏbņ!6̾2:U22?>c6rIoJlʑA*Vw̿fhbYE6AP-xE=A~axV2%s4QYDh$!VWCk1[]z̜]=d4&ѹ4ɦ^eFy]nS()b/^űJ~;O!O ā!VfMU!$Ɖ6Mvp͍AfWճO;frr;T,%nhO1P$KDЯ5Y8>ϵ*If,3/hSJzIpY3ScMRҔ%RSnŕ.)0~~EDF?QS#˲z'+3R̨aԜc·R>U1Zi6Kv!<e@ҖLŋh|uΟU>PR~@Đ]/51FHdgSL~IkLΪECΞ$FYh'Ł];508GQZQȞVjV@d@$q1Ȃ9˂^Rfee5&h͉T;J<30ͫ*KiՈcЋ=nƎӾUD`f eSEz;nbM'VǪJZ!]&o]Ġ17p6nux~rdJʁr<Nɩ;˼1T nO`A|CD,P@iwX4tkNO~$]='sϓ>!8qBITԞTB>$SKuz8'2WÙR$Fk`xd^¼Gi$FtAĹL~6P҉ò1&HƝj %61eerOʉEœHR^ ,v=*!ˎeH>eњ(ZZ0i̕vlaxCAʄXӝl=d@ŃZ8K3zygkWͅÛs:-Cv&%$j˳;&!]_O61ILg+ϡ~p)C[ɔdX CB@U_OzҲ,QώBC!cWYdqԐ2ʯ#ЛcRKY3sGպl+p= pV,kTv[n̉6z4[pWA`ne|SnA#~dmͯRRu].>=V$rs3cƴgɌh5W/5_տVu+x);]|ϐɺ'eoL2Vӟ&0Xvj?(D4LOS$fW-fѯ`~Moς@jH5,5%k(U7jZ|Q41QdDv0~e.φH`'^OՕ2u=!oǫ2g%gOW`c1հG+9(ypqv>f!Y>`bɶ/ng-C|Qbxyou/T+MƷ6>/`(ˑ0&PEug6& +Q3KTOzp*m* m)J6*$63eD9Z0IpO4d!C7˺/v<w5C̈́[f7QZ?YLs2%T!^?yӻ!S`ueZkH;PM*8P[ >p!τʵvbQ?7'92X%>Qyʼ0%N!~YxzXf%_Ӥ¿lfcgthkMcӷARkeBK-k.qlCŊ6G'̝k(Z.c+DͰka)EKfĩM`laL]u7P6LQYW+H>^~7%m%OFuKj3,Moт~YѦC9`PҴfz2dȴB7Y3[.9̟[W̹,c/|B3scӘЊ)(bQ[g9u-)L;VG..e,Nk_'M-rIIaNLjs4k|tk(f?VU]N/lOI63Rka9~kEr] p745w'YǈYKΫ3~ow(Dě>L6u8lhDp*qOpRx^#?<+/Y(f@IrGq.cWa<@8roi_IeSVN(B*rm҆'kEHhKfǮmtԁGϡi=puTp5pn)]7+0Sz%2(W+Ϲ)y]ȗ_,QI[/dPӇSTɱSPDTN<,;#Y^c%<8:kh?glXѓ[2;M|EIY`_FB,unQedsm~HM)QjT͝Y9P*2ǜxn:",
  "RĦ!.>Fr[r0[qYfu4u|db*#_,J5;rAcQ_˅9b6G(%gC6MUKfho*:unUmu4Y=ձ;W2rzl,Qă,9bxO?uLHy7+^S2%wv!dHBHU΋VRl NPy'vo(W9,kʛK9zԤ0G1r:$B[9U3:I& Qe1D_068[9RwԾi7lƝx(;?V;ɘW]GX$_))b@$:э1haи'H.wrklh(I˒?ԈjrGCRoe0#L]w'ԔC=*f^ϕK *gI(2@DLy7ԶxҀËLV),QfU wX*?ln*MXB9yZh9)pL^]JzCЫvf%hÁыîhU_Wj!$sZ&jD4×%̖E4:Wg_dqҺPgjtqn#ՍMJo/v)jKMz/8,W~t,e1TgSĮYa2/v%d:uv|D*yϜ~:)U;fqdr@њw˜eNqv5˿R<9XofdH7(4'uYXbH*r?kaPbkg_rɞ>p*/ΩҔ$ѥsyh*Ƨ^?$.L|/O#;UPnJK#BFqQeOlr]|2͙FӃcy`#g ̦xhYAr[2ԣ(?)xo80˼+8D*Dѽ5Vԁh@QLυhJʌ~+wĭeP&ƈ2fDx̌iЃ,19EVYG&9Il-Cf+13Нms`i7ȣL̩8T.T`6'8FBoNW5r͜!xAK>A̙3CmR*xOuCШƤ3]16$DqV,U#W%w0nny<Ddd,H҄`n[0J_Ԏ|БYLYTЎp^oKK(wV.SՎ#0U:`kШ^JӆRƾ*(q,I&kKW40H~Mos%5]+sáfRƁyrPY9̘/GU=L`Fëfw=+h!Ԧ~DI]RaDg><ILLxHm`H%wўƨ3k)KGETQ|d'9!ŉЮ<TG;h'z*`Śs0FxeДնpt?dO!LsvxR:HĠ9,X_26)c%#wÎM9Qd'cJnđX0B 9p3;vl9!c<ml?ʭ9jhX7U6ՎLIHvJV!x[TQȋ?-ίL(I-V `a*#bҙgul4ДWF9_%ie`Pyfϝ=VӸtSJdu2nZVr?LFvLoģdchɦp'<VegCNh7].2ˇ/79Ѝһz˟Z~g&SYP(fSy*Vc2=ξk-vӣh(h (2b<$ɪ`tǹqϻ˥ӡ_zàSJ<A9huV#ƦTx)VfTՂYur&A~8Y?³&dtէ`e>ՒL@&ά=iȰԭƨc;a6f@Q2ϐ_»Cw̘ǇwzI$лTDȃͣ<vJ1_G9gJ`:_YBA%FGbɖ7WvUdUYds?H$ǁT(rbIKpAs5U^ɑ?GOl@d*QÂ!̑x'yvo*m̝(Ɩ%L6kN5+kn?_%Ԗ YgGʴQ=w<s4V[$pdl=DZo`+x]H՞W5JGpQV *NO)=ľ+If;Ă~||AS<6ӂ'p+wwOi˯D<&E?IydlԬD)Α(_yOxParZ/TӰoSYpÃ4 UxNc/ZMRwYe'z,0um[IS2//#[0**H7<5ͱ'R.i RPgh514'nE/:=Q(`ӸCI3im KaMQ3ĀWtL",
  " тյЈHӦsѨ;oI1cBuM%J>%8ɬcTN_JTR]LQ1|->!e,8z԰$d]c-j-sş.̥'-YN0S;&8(>-&6XHeg5p@77Gz1˶/ʰRHYӰTFB-M=LϿIĽe0&B8;4`+Ciw!3(TGV=oG/scRpG;HnsohZŜmˈF*qVZ#.Y$ˇ=]t̳`#(VOϿбKԊ/*=i9^?8zQ$+GiT~T'$R.F]FƖ`G <ʨi4G<uu'<0xX@` V,ԅ.9dVI]=D,m~pƦˊeVf@7h~&?~HkQ_tBǦ6LΐƠ;sQ=qIVŉyṲQErY,yvrɚegidn3K='Ƿ>><FkA qQ|s=-0=HEӂqKG)C<̨*E[c+ЭGGheyVgMfSϓnUwcI=|̭RyY|>qQ(9P+t4NJ!S3fAuKe)azD~)V_z[r+ɕ<nd=yԁ, ,̉XCԂ2r:f:.5?%9ˑ@F8kx)K*ǛGQ,$-mɯF;l1r͒.@t(MМRƲ.ncK2^AG)SbLw?AeCD15;×2nwa#+̵ijpɋʱH&5Gʁj67͐fIxbյAg˦35K[@*z,cNSx,W11c_Eɪsaduȹtͬ)NL=py9()Gg|C<_]!atNf=$Z8hɧ$5gAwc6HwT2a˽I|ЙDE;~Fa)b=3!@<˃HHͺ^Ͷ/Z)h;KTRt!KwXJS˔eIlo&WN:~tIՃf[+xh˺pgri%kvj>5999p;ȁx7_gfˁ~UN˅0&_̹U_Wma=pAJJ:*Ǖm;alQГ,Gd][GĈ]Xƃbnn+Ot+bia$F0ŭ_wvσ-_ƃI?<=,,Yv.#^`u' bӴRCX~ԩ9D`Q]nsOxȫCg̽w.X39dCʸCh8)`s_1(jUv_^+9DH1/;5;>w9HPl6ý?[sv!oe`nB<Zu2c mȆ%ɥL(&V9JHΛŃC>uQ0`PvX3LT_pSȎHk4Mĝph(@&BЊt0L6|9# sVXN(b+e2ob~<*P1(˔Av>'47ke?YP<B-e=ɘ~gi& ¸B6n+@VV$fnA^ǚ7d/`m^*EctQc&F4<1R:tʝ?MRBFÎD!'<U^ìlũǔHãȤ1/R[G$ӠP1!GzYԚ0Zjo#H$1_9xTӚrQlJ]3*D2#6~Ѥz<Y]8]hEFD!dyk˅=|1ȓ=|OZs$uxgr(Faq3%5fsϷc:SN>/f^=űOvwnvkRcj9U#1ҦDOLHsm¼)D>(1wCzQfVĜ|b8ĮCJRmù-Z.=SSbEPuR_Y3W3FsS)<zGlG-nKEVJk(z4mMm3=թ]PQDAk0AY)ο)#ɂxl]U3IK˗V*ED3!Qq2x|H!Ҏbz;vK6ʤLe+.Ǵ]Cx5G|x3*ezIkkјpeMs)FXcJs9#Ccec5K/>3V702iVCI:HF[7U!AcJJ:KlbʣD$I>FXvɏl,#EEVc=Ƹ5C-#/F=+",
  "<2z˽*ү.4o9-Μȁxsb>9!E?F.Y+s4Ir2,;;[=fYlŭr'.N0G8m2=*M)<ɔtHtReUmE˥TXiѫy%СS?6 WBpnNqQ2Te~HV9Z6kTd 'wCpCեXK>iQ(+>!g?Z`ϝ[2)Ț>2r`tN^m;NWkNzC4Ev ]WS''wnr:qz[Ʈksnҙ;;e>bFӛ&UϊY_$'bqe6'psA28ʳաWV@`hηP- /42aQ=m̐8pU*(D9ky~pˌZ,`+Wә+lj!l.d;=tr[Kg[(^V1x9x÷Ǆ`a[/vȄԈ'Czi3E=0E<5BUMAʵsE,Jİ)6WxJUZ*l6+MEGys!Z?0j=q(YC?]|:^͐0Ԇ1KpH u6?iAcYnB]+oZDH[B0E@ԋ]4շ,#~ի,D`Ё<!u&Oz+^˨o[WY=#i)j)J_JL@oɑql;2?> Շ5V*$J+0NҶ@x.3ӾFŬhm,3qXdWS#ORfn`bԻkE`W-5 2('ˎ!!h>hCϧyK9E,NXhEɄ)69Z3j|ԸԽxZnxKʆj&:$qǛ+3&ǔ@ԧ,yF;grE.(kEJ~Jz5~,ʓARy/5ȊȂ=oHɑǜADxfd8`-v&ayt~GOXsn~?Ҳ8Nʉƙv$KosHYA`<P+Ԭ0i0ymRwիt~%u?~ *2<vf1^.-PaC͑,<1Bj7*'yFdtq/gKBʤ;-+|AN!%lHZ?i-lJŀ0Yo!@NFΫ=DW]pe|`jҩjLr~̶5G]bʳ(@#.D)M8/DcbǋuëDf1.Em[r aae!_aVwϤU.kbBkĤhOY?Ѐћ7^!7/H?kMUcU;^Eh@/'γfJ(2r2ʱ`E_tb5!-b4@yɼ϶*@-7QR$AjXp?3EȞ@|`Pы!k$rQϗQR,E~ϛl3$Ж_u>34i҂UQƺϋ̿zgWp͝)Mvf3Qwo]mЕ*?v`T~wl| ŘD~MYIV(!SLvN;^&WJѩ029ǾP&w(&<XBt8v'ʦYuhtNWS]) 8:SwPd(C*q(G7haτ^p;ϞhH#ed#2vYďZySI̪,M,:TyOpe!PnS_E`R)LaBv&R_$So+px!^dizG$>l>C;ldW=ǶcѝK0C;[2,c+dsqDr@o@ƼK8<e@<t~@^Fĳ.ɀZOPU%uB4~4̸k6gEsb´ΙRc>oƛiu>iuď^qЖ]o9BПwĀi-zbȜգ=y2I6v`,uADtœVɋ<ԱqW9YCo'fpQlY-/PAfMՎMʳ=5Fsw8m:k@NQJUMH!̅iɻJTpm_CNh,բNQE?UɎ*ϒˤW>J6?6x2D-<1-pCziZI9TE)SyM!6bYCn9*es#71~Q̡Ȯ5[*&!aMbqԡW~65#>ԍF>3LNhjEJRI)]$ДgmU:;-ԧW,j/n;ԨÜST?.wtRѭ@>epՖu.oII_cXpJL O?1նv.<_/#&[V 3$ґ",
  "Ϭ5,uJZI*eE<tKCdϗ0f+)yB.hFp2Whbw@6W0-ƒSʚn5CoKa~?0fcF_G'22E^:Fc67(ga÷I̢#ź7;K[C0^54jjdn'-xp5#nD|ɏTǝdSN[bT^ͳ5~tE5kc-̩Aa>!X!->gjV[65[Pq=:rZǰtf҈ǂ]5nVCp()IdQOBiAJsuiO8˫#-<gfq=E?Z_HG!͝gIsa-9!oL>Ľ+& AO7NY12ɝWC:bǴK1xA8BÛ-,cncA[ϥl8b5+ϸto+&/Be032=_/k|ggr%P7Cku'CxroP@Sl+j8ʾ.YhLRHԼ;c~CE6lQ]ҷ3͂0Ȫ`/]<żPX=REȻR/fk)cY0Ų͍*f^-#RnKվb:<F`;G=?a$n?a5lqu('ҒL%c?±COBG'GteӄD~/58~|i(@JѪ7N5ýn^Lz`Yo0̥?F5MFЄ=?mȉϺi`zE&w`9b՚V.qS2r:TB)U'O~&ѻæ[F4-U9p|(>PjFFaϢp;i2)Y*~AeO[un7lE^J twRk5Fh8ml]swDslýV!ʔ $4oa?`c^nREfC<hvcDƯj.+^Hѡ2ïPŪx[ȇuծT0eWBg-#`^]LHL/Ekb~17_xɞJa'LmU0ҊZyyt)okLՃDDzE7/(krʽ4ceIaa=ǐ^V=X7MUӿyFKwQ$q˞t3E;Ό#IξUiQ7)+^;$DВ#5<,Ѱ?Tǲ~)[2dk!MƾO8˰VKze;p-ŋ;Dh^ol6Q;ғj*.:a.h#<Oǫ(_iL=at5%ŦjV^xoƶgsť/91řbM5^Ύ+ϟ@Ɯ0HkBB=,Ġ.;-5ɗvH@JʀYLHh9r0>Ȁ-vʰ!̚?ϩ:hյF#n6KϋZwaGϛdyB';Y?Q)GIVKCtX1ҾʌZoЕ^m=q-`eiR/Q`vCbɺʹ4k^B̏XyAzЂ't;niJ#Ţ˂@ltˡNQlG annЋqUPiBȨi]ˏ0Z.?q'ZWx#+j]~MQpMekg:ʃvИ3P?b5%Sp0՞-(srH~ĖK4@Pѓ/V/9e=ɺG1ՓPϮ$cF@^TDt5#3nXwͪx˹,HIɝ]s6E5p`U1JҤ4DF3ϟϺtɦ3yaPebriF0ѿuA-@/aǍpba!*~- ЁVU5tT-ņPDpoUYŅĊ/*6Є(>1^ҍMƼK̖1:)-;w ѯly#Ԙ<3+)o:vd#J23^hS<jJu,W?gw,L5<'3jIw6_F**?G/NZN gSGEuBbK;&qA]ɱ>[mx@%WE΋3Պo3)~vTj9&(*ʜDsՔ4/)U4ҋ-tB>AWv΋q4k̭taN#H:?lJhNiՖX[V;aʹ.='6PF%4΁ẉτr7.?ϣ*tegôxoi9SzbQBGb5a?asi$[C0>ŴCN`5Nyd΀L*tLbho2>lnxǩ4~=QlԠ-V[p1UHREiе̹h8ːSSu0|lk,'nϺlNȘ+ŷ[`y^",
  "ф0|%:y1zjpM*`pF nIOў,t QJʅɃh<53lUKV7fhVOnX(H#ΒK.|̨&,ѝq'3>cCF2ULRZc5I;~IN7TKP vu0i@%uҺxyX&oCA4x-VL0BeLb|&R&5T?ϤЮhRv͆F6`ʍl1*-%F|tҿi[*ACнȞUN#'+/zzT3$ơ|habYv3:qK2<m.ˤmϼmPIC<;'i_)LKMėQxsb`2hÛL?zͽҜijo15нtg [ZEƧTN=ʒ4'TkGe.ĮVm0gjQT;ʌUg:?9MAS:Ǯ'HȾ8b/_Y@uQ&DPRTŗrbw+1kpQOs!zR҆JGW., ҂'6̡]E@f|,:d@87B4?úw&n/e4m [RlKgRbZM> DQ5PKIs)~u61KE̓Q'?gdvFJ/ mci5g'3=QX~*)2|$U>ӑ6øù~vG~δg??+J/JX@)WX @DwwSլ3&ӝl27^5̭;KSEbl<gj՛66s1$o5.YIj$KQPrIA!(f|]W([KÜmRq@g#2[9^W?ΏxEg)Rϰ)R cp$:҉D$plh+Cqa=[%͍3wARk~!qLze~3d+D͒g168zT<>7!Њy$mσFZ#6C2W&Ĕ8Ə:nȉa!1&H/EwFt8D/Y)+R[LbvajxDI[_*3L Z,*q[-ma(?&I`b^w)qd3:?S+̲#@!_A1Pǿ?ǴSԔ̀xE0LՓYʣi>#Ò5qǟO8B!Tz[CIǡy/%pT;9sm/Pȭ@$w/g3@[mP/Ѐ>R~))5QՊJȑ%,?hSKNobG0*3#_QDO20%LV#ai,k2ő.C[$d70Q-EՂ`q4cU6hv@LrQ7Qɜkȓ<Jb:#ǨM=8pթ2blʆ3*4'pTkw.JqbT>ZumRŝZjckA'iITfGnFe)~+:y0Ɩ6`;0_hHU˅X#tv6mm4΀o<k`ә2Y¼=QNǣ~]/71Z<f'dgE3u'7&Eлf V=HVk~*X[5 ]Δի!HJ:ҳʶ3dMda^|oyD+&.<HwPǗ.q.`ʤt]RUVJv?B-j|yhуAG*RQӳs.PХnDn!Pռˇ^NE1-]xQh+5h6ZIW>(°$6U*9(Nd7IN$h`iΘ6zҦR98G*26*sX5&:mIZ'.eW(-S-gv9%a<@ʵE:51>wJP't%CyvɐGK4ϨZGbC>r,li%<cNóͺ2(&Lŵ^cu(jDXU*(<KĠRhSw^_I^Z1_ʤ;ծ|Q*ϟSy41ǟ0Ah)ˁoĞrRa˹O@bA--(?w?ȧC>7IԘ7yZƶ2 ZjpwxX՜8rGk<kj`o/Ht6fDKАV]κN@50.3nHoE_:.Bkg=9jf4ң@tJ49tYCǮgYtXXZxȁ.32(!Iм8(9.av#22W.*JFr_6(ZpHIQl8d[Pϻ˦ucyԙf'xWGАvՀHƨ#cIy<%BBx$T.@(8d4S@b!PԜ]",
  "g*Yh(%K%L2ė4(Ky3f_͒~M,ʄ=â[(^KXdѥ= v8ƢλhԻȐ|X˯W&'`Ԝ:!5v_'uMm0x2¶2F;(`ˏ5̧vӌ͸hpi$^ϼC^8 91:2;.W~VXȳƊWSI̬UԠwGuE!^24guUH_kLbGy-X3ՂcƷƼA6vRZa^-Q.Clz:K4m.D$o=`iF@7|<1(?C?igOrDS7Qє#UoN@+%E+yipG-i)@M4.sz_b;6/9C'iyyɔ]^nZƼpN>_L՘LY,z&TCSɵ;D,_̵ʩck=|Q]9%̙HQnL[q`0]rԡ]sP(RÙ³4 F/=GnLrJ,.yj.5Է͊ίNnQE&1 Џ=^b_l9d!͑nm,twLFdDe o(.ƃb|u%T^3l˥yxyЭVǃ><z1~H`̄std#cӳm$bi&pO*v4PlWt(Г3<P̂+Øsŋ,h9Z@$=+_(ÅҿZh$)]oJ<3|]$zɸ19M(C4uiF1)wy|3D͸pFm^Y+w(vzEsO=x0Lr=hG' gK΢!յ,yAƑkSh¶ƩBv2QGR/7ẔVb!/qAK HtN@$O<'Ǘ?Ф>Tü<K8ԤʼOD)IóMZ1an=Adu|&9iR_[[dӘz7oF<N!WD3adGS0Ԓ77+YpiSMHɜ˥0286$oл20 ʟ3O/̞˘$J3_j>C~6k&Qf'|I6µ=5͒ScKwi5Fkӽў`B)^Ț~SoqB8XCɐV^h.qyd/pg,CMA036[$Ji%os8'B23&uňH6Os-'Y[LC$k.mĵ!qAușS@C.r/zsOK,Ib(QYh*YQx]|uƔyĜV~'_nzGCf2Ħkʬ,ZLr95Yń_BQ &%_>)[q3_4zp7hAMyˀ+j!:5[WΡ@5ozi^IM<0(1nDv=&=Hʄwh@mRjc)rƠf4>+,R/ͽU@m2=y=^=MpN/ MɁqMq̫tNXѮ']0inKepz5V^Ñ?>[/ATM8UNI*3>Dԯ/%VΨ_Ruġ_Te4ΰa32[c`W(oF#g[N@bC $ʮofQ(l*XLY|@ўNU;ǔр69Wi!Q!;UR$.V]9X_@NZQ!?4`͞T/j[|xWBm9~Qf:<oyӀdc?(q.L[X;XZɉD(w<tɛ~Y/_ƔH@!p;HEW`Sr|GI(ˏJag'>$tx3zĴ z7&fC-wIV_oՖ<Ua&R#`7CENȄ/CƠ,|1LӺVvxFmh!(HėCɡgi,ovФX=ArG>c'Gȷ#]SFO?mNAN]zG<ZiѯNkiƉ'q(ҹU=,C&0Q(w_=ūO4ʄe̐#϶/iw̰th+~quU,xViUh1Ӡ7WŴvkV6=$K0HymK)XbPTCթ'Rj62ɸ?BeV̩0KG-,:]vF ?5V[:xe҇*=A[^.|7Ds̨k7Qл~%̾`;!/ZZ?ZW?M X3s[̓@DCǂ3ù_d4lfnq(ŇTeDBՔ?e9)7ubŝ˧aJԆ^7ʲ",
  "!4~1XuJ@Cn4ɋԉЊ%ʉL'R1wѤɢ?$E]n`l*axVƆ1:R%Nm8ζ[8o.RY2f~VZ9<>sW.jnbb¶jXbWՇb=|'<O|C;|PqI@wxXzo*0ѷM`Ƃ͑D@g.^0 *1gt+Գ7D̗f.g^4Ϲт8awEV*3t΁Jqv[CгWSlB8g?<qE)E7szì'| ?DI=b ẸҞ[fa%YQAN_jru=eY8Ř6Yi5μS9Y#wgA'?pùZFexRT!Rf5!' _9DD(@Me2lNWƇʰ_PvQ07#ĝegԀ˱FW6? 4V'/scɲ7CFwlLM$%%rA(JE`fq4J@ӝpCɽƣd|$|V4V[˹CZ=V?˂$E>|#!ɂƅI^7/dEӅhyӉEсZECwyc>%o^)'F*PZIΥ8[+HjF8Soi|S>ahT_<|0ƙNG)F̬,R9K8QiXxk-@T]t@|GZ8~PhO)-VIzs4U(d$*@eGɶY8~Z6E[LX$b-^c)@sgƎ!WZwu( eBnLN+Ґ0tZ7rʿm&y8?OfF3(vy<73<6պ#>XPW1ՂicB R0ugd!'վÓ/˱(uĬiES'<mҲ^Ld'vRϣN?(lKß7%Zh]|HColB`3%T;:ʟ(:;$Q1aFpM%R0y0z5)<pP_j1j̫?jQnN~i8|hτRMs:Y'<.=fWLâRa~$daɮRL,zq,y<<+7TJr)1VllѶa(4t[VaYK͏/AX_P(T@=$1r+T'~Fr>b91e4=?zѯ>,. sub-/;*eqӊйLZDe5D0DU^+DH-ČomYKhJsYYTpbz3C6<D^uJϭx4,Ӹ&o:~7ȶf^mVzWʏ$[J&bU566;&?z$Ը#SpjXZ:l =ǉp·<c3loΔN)4%#=iuG՗2BeθtIo2.TA?14brFe-MYI`MhЕO.ϐ0AKXAy[KM'.Q|όðmR$H6Fu_a,ԄˏȧM0Jh%BAV<j$Ԧžb]a&jog8@n]dЁ=S~̫5YyQăGizUI 5-M|$FdvO>I`YյOʢS:7U#DЂn)Șpu=e>=åS`uГRgӖ0 HGd*?ǰ|ˮƶEAcM_sь|94D8ǵu4rl5i)~~G>F3~p;bB<9ĭmLGEbibrŷ&O+`e/0EM)|zlȱ3+:*QEn%+Mw22B?Mn?iv+5awіU!uttY/'ѷRLc20ǝBXA<Fq3PJZz+ruro^`@e&9m&3r56`19չrca)k9Cwˍϱ,˲̱-WJ3-I-`Or`|@Yh2z*kd:<$/Bi42ʅdcҨmIƗrϞ~DД~<Ӹ4iTExI)ҢLkO2@,-Xd]#6/8Y<2TmH&A>cOR/pŲլДɓVAQ27ʑVnXI05ɴO('75PTM3WB4PW]jgN`ys'Ӣ^Mp51r8?)HTy[5ÌgE+rґ.Z-H/r:4ʒ!R2NxΫME](#ȓk0sDT!иkD",
  "DfշGqJէtj0]J'̡^|S,1[t0J<$8fd%?~f[jՉD^XrHђ-[9/rKm_eƧ/m4/KbM~&'рÓ_VSm`,:X+ǔgjØæmyNd$'n^æc=`>q7tak1!TSeʂ3^̆XAdn#0,MhZ?bӊifdRM?³ȑKpL_fM TmhѦJƦԸВGHĺ/|MPr!Aʨ3ӵdRd*ʟhxKO2!A (գ8^3#y/kNNmĞQ:Isv˲$D6+˟u2v_&cΊ]pNRe9I<<yNLKLF(^44:FKpY͛@Rň:s>sg1CʉgAVf(3˟!)&՘#?l_RUO$$6 g/YlhWZx$ME0yA C$r:q)e-KE-ŬAXINzfZibxNU=xʮˠ+`9;~A(.3rWVl>STd`0ҩ[XGn tg%;g̝z~#N[Egkn-5uf˭̜C_˾6N%ʚK'Gnb]YCşES7U;TjzM6]^üȉ|C@ӂPhLԏd|K3ï̩(w5;@Wydр6|dfy7̫BKZ!;=M^_jΠb2?XϼǸ~k`pk|dy|j:ԇlʷ?s;ħαK^|Ǌ&|q*%=-ЅB,ccOj6@nz%*5hU!3oi5íF3dTtҿ,aΔD~^wtHnΥ_PZo#`;sr^BYK+|!%7=CƴH=H L)8=&Mb-UTzrA:Ϡ/XJ)@Z&[GҊʋ;#9kpQ?lJDRf2ӏhh&OeʺA$HNNYLՆrӵ*E0.ir]HZ'yfE5RKA*ikT$gm@pRȓPNhS*Lý'@0e>z5 cσM~:f<@ьy~ r+Èv1Ńr#0?v˷ O>W̮Ι_͸=9X9ѱ|3G0ĽaEʏ&sKg*Dq&!̽ԃ.Ւ%E7'rvf0m%7QZH-k)F?KZ˿73Q`i?d+hbX7:fP9$J)6uh#)a48X]gr$0)>#an*AxK_+˲n lU>-ol^g[13cm: f^;k'ŲAYF+:~-NNAR;F[EKwxvQ3F ̬˛t?_`ruFmtt@g4nJiB>ͪ2'!sfjt+B$$skΦR͒`5oa+d`͈IMUv0AFMc=-h9tU!:hesTIC?T!+ax-<oǆBc0Y4:јs#8UuW-uUͼͲ13!kCSNdϢ:rw8βke®ve3MWsB@.G/32>6Ys+BʿV>97555'C͝:jx%?NE+Ȭ=jVϯxĝϙPf!<4O-nɐ%mS29GQk1Ѳ/̏Q1?Y!˕R(2N,%QnS1¹5OT$^nhfPp?`78L*Rng [s0ȑ$!ա:7q'*qtŉCpR%Ϗ*`53bLDJ˯g-0Iz?S)ːTDʱq,Ƨ|Ou*X'u! _ΤC$Vz<ՙDzMOOEƯ%Z90MwTk6gń:Z2R9as]B=I+;Ű<$AW/]Љд$h~Z2=t7ΠJE8զb+>dpTա˵pL$d'I6bBhW$jehRsͰZɛ˷?ǒv:i/AtTayU~kVs;EիDiY]Ў[g ]3-Wĸs<@u0P#fuïHmH,sCb,6R[~w",
  "+mtǇ=%0Y%*kYÐϳB~!o?nvҤǉI'ƤqWpa!7ľ)G^ȗv(DϥGs=bp(ӯ?º%gX$`9oV^oX-(~49ĐBOjRFHw?_<!xMKN/::h!k%-FIvxX?˗UϘxs+Ǝca31$'/δ2Ȉ.Ʋ'h(ʼB/2MUHtataPYDoK?pvbsj#is:5d?Q)ѩSeqDĔ)82av)ԡX;$/*F>LnDɔ/:r[/kY6bSɀQVIOՌgb(BOShXVD? s7;<:YøX]Z.+Uwǎe^15MmQhBSZU,BFKpBJЙċ a6 ;=7IuX@?7mrAhVeKfTp-PlĂYP)~]L-oL^մov*ˌ@īHt&Jȯ!k4sĂsE|8Ӈm8GVNhjA<HOS3)~pWAK!^Y7J!,Req!n*ECb'rkoxyizW~-&?̓c$Ԟ11ɭK&'Ϝls/]Lbq_>SqӃF·?x[,elUZOƤM>B0Z#k/7-XhӉk,n<j+s@>vAcѰR_cA=ԏ>I?ϊMrEpbmBIuC:LЭ%!|2F)s+iCF|Dr9D)t~IZͨ6z-baZŽ6TQdδ5VHLB*<rL|~ǜY1Ӣ;YL8,&B-6(Ʀ.`fF.V*;dPPDſ6/?plʥl5;)Xā6w<EU/#*_̉%][ǅcJo1YB?d%V`ͤ;[?@6`Tebɽȯ,0sVRmҕdÁɪ4Hr%4;=5+Okk7Q΃y^7tbdxUta:4DG)'L9v]IkQSSKx.yq1GQQf=bO:hP7ƻ˺Jft4RkI@#bA*;yyqG(%`I-S9HlѲMȏ=mjJLʳ?;w0H|;=jChbs||>_qAÍ]!pY͔n|q' %,qx+tgZ^eŚ~.zy(jhmNms 0g˗|`>vw(juƑǦw,ǄF4ja/<ǳoԋ81/ԄxKIO*`poo,LE~гY+h#EcR/z<3J%0O5%Տ-!(Ԝ9ѐww=o*%'bЖ×Jz~<GttdQgG6x-U`Boǯp(D,DY[~AI~r`V,j?duswѣf?bEilenI^'V(#HfJϮnZoʔLB9/oîBԴw͐^fVJ= 'N7:0̿gȫ/aykIFkoAy<͜S~eGzΐ6xΊƙ)r0.lAYjZ&2'QVǁ@dӸHB2+y;GnTU%_]LAkp#s8j'w'Epz/Xx@;yuzbԺ~ab-ćxPȯǚ/8+CL,zIv<n7;+E->8CJlIod;=F0fiї,=n.ɀr9dWL`K!ҋ|R+nȥ˧x;Ӯ҃Hpk+wLE#s|α*Y5rʫ9ʀ<K&6k62.PLLiSMŴ^՘BչnD=Ґ/͇1qvY?*b;wB_WX!!VR*c8;6kuawjPzdp,%s'=][V11M@xUiníXq*]-txLeɩ2aObXV40*w2bMzȋqUOU>lWc%.8fTRxӵu˭_4Bw<D6%z̟e]+'&*am-C8eeB»a[;ǫq-@xHq'5.Ø3ҒM6H/;;/`їY.k'",
  ".agr3T.Û&l+@.PIrAh66M.+k3.6+Q>ǞĺD!Qjr8zӹ4/q̆i8>;7!#%PFAA i8h)Z+Zf5ũmVͩr+22|9VI.4pQ4ΚNB̜fԛXϋqTb,nZ~ht-Gj5+wDro)FZ3e7C`˰jJԼnLwGkNCT3ŉ7x#XН+iѫ.hTK@7s')0$՜/Օ()o?uDroK[j>%MJBm1&Rĩ_?m+ʏ`[ț,Rvņomy+1zVNR.Uƞ0_sJq˲HmyO QCl'dgϲL0[_jG`զT4Wձ5B-fҽ36QkZd3]oKlZJOf|n?_%E-Zʹԧ0N΢0>_'TCKP4`x+>Ϩa^Іϴ/N'&gE^q2OU0f΁UzGUlsJHZ8eY?;đ)APwC2k![ãRԂgL̷s,еA`c[5ϰ;_56MlMve5yqy=n@X*zOqx&8)Ӧ|!r#ϮAV=&~XS.wwRuQQch[ͳ!x'cZ(;j!â*Ŋ@Hxe2;I ̔VyH!7|IDgc0Y]gyT8ZAA[<[6eV`v6ÙʛBB%ZNnPd2g:ȵ3^յ»tF_)Xsd[2mFV]_KS$xC|'!9Gʘ/PsQ `Oz)4EkV9MN[kf_PqCmnլԽf&% #1hV:?t3qNBk_d|.JʽнV2=effM`Lk_=,ͯѪL[osQp^ɬ;(ΤNԙ!BNPUʈ8DЇν2fjnZƼkPZOy]Z3EC!s:ϳxǁUn>&Q^R.jЎŊJ~tH-)7z)!4ȶFlEVcrĬ=âr2EJu-юQC/GKY>y?w[.<94)XͲ|ϥ]]e$ 7$n@!ґ7Vdj`]TQ|DRlJ#6J#T>En;6''+OZ6cP#G=mg_1Xӗ3r 10~Ζ^/ƔKz^/ x5̷ǘǼx7ϙo/03ϝmMÁBUXEՃȐ)AhźDDЗìmr!ɷy]yKDT;C|l;M7Q.@=8w>!^>Db!@?wK.(#f#b9PFQ`.hG<ROJlbl7ΓC2Qп+ǟ,6!?Y=;M]E(;$ȧi4*M-/zKBV8/_aqM,DZ˾ďȐDҫC8Vc,^Զ$G.:.gHͅ=<Ǣɩ1#<AoExY4v]H$+-QuԾ,XƬ@8~xɺ6noOWMlGos/iӟ%|:MtK͊hI3zՒCqH?xO!˂TfjzŊyA4^//͉ǈϏqÿ6Ɋb4%rдqI@=t8N=.r,WLQ˞vDti|[!Ce/zӶ6<lq6e$(6mJEh=s5WG!^fH+lԸqlI`V)5qCtYWRԅLnXTsCg:dŤIf|-=nOLY~^AxhE >cj&3Е[1N.rGK5;Ie2VZ<xx,ro-;3^ZpD3O c&ȠOZ jScnai JrNtȈw~F^v]fM7]лBU]sXYҲ92bBiV0ƜQJ#%`=Ϊz.p[5~jNu20?aӴ8R!̏Zua|ƟezЅ:l!ztE.˫[8Zr.pzgѝ͆!AȞο@F'cvY ft[jG;.0e%T]'9]4Mg(^@s]̩~",
  "a]d]ՁR~^Jlj@d)f|mETz2f>Әd@WFo|kQ6zuFRr%ъr%XMmKDBg_ZμW8h,>cOVzGҫmn%G_vxϖfAh_cQZm[Ǯ53o_AZ(ǫԵbǳZ</s+̬QBGVo[ԦpPMԾEŝ<%wtH=0v(2?s;:ΈyH@ h(o.ͨ7(q:F]k:RɕX(*%Ȁ)8R*%B=-μɂnftƩ+bCd47BnQSip]zB4Iź8ɉZf?JbcpzS1,äNhVT*I>bXn[yKk!T5):Ɯt`cwj=@Dh%p5O,?m^A>$3P:<.F2tqQX-Eɼ̋ V07vjgoċtϺΐ¯MƱ5|l<~ZńqH;C/vϲM~!FXâcɋ|$X=bʸx'(RŜŷ&Os4(ayԄ79KP^7Goz+!'Ρ)HF$NHQeըĕkd A˄/t'UAJCAz<jG'<ӡ'SUX#Ґv5;щ^tx->SGDm9xʇȋ] f1ơh-f*M!ǌ`Srsq SSʬ|%A$,8:w*!(=l[rlŢ-^fmK`%vkszB%o6t_Ȁa)muxA$@p=SIf0pmHF~Ҭ҂MΌQ$r/U J #vz0'x6yPZR'ɻϘP/2<i'f6G$pPIONOxq+%wga;HeG6V̎wlyDIw`(3;*v*<:oRR@+(ƙ%Hx5mӅ?rwȠf3Bq-BcDëœ@ƤB%ChϘPo<s7?[G1Hp2$jeKzWq5$>@:KzI$GF΍8RX3ӑАmɫX.VI 2+3h,#[˥~6AUi170riIlL>dlq=B+di6P`Z7t]]>pgьĜrK7~Ǯ4c9(W|] 4t9qĐY&c(M7Uͮevs$)g=`MflsU]gkt5˛õ1ʫeV/~WhyqJd=wǇv7gN7w̷ȚnSa3#EqNQ&k$Ӄ0J?$,Oh6pPl<f)Lg lyc&:ɘlWvEBSJӘ[evl`qU̼zJHH6CЗL8ͫqIZ)_z6~OdTt̀A>s.ao/Qex/it~0mz*ʙ^o$ORJ0NԼUMeqչGUySҸacǂWт̨fg@ËCA@4KnW5;ϔO3_L7kSl6ǶWhRT$+Q<<oƸ`w&O|N)<ʐd^'gȭ?G`un2huACoЖxXHҫPM;DЮ$ 5V(?ȢmGY3Fl:7KNR˙oƹDԩzYkΓ6wiÕcwЋi;xDTh=χEWMvQGUnćRzǒ3c/vkXz6F1́QI0˕Ȕh* H,SdV8JNΦ]TOk1Ǿ]K:J7NJ|Ywk|tºpx;TʉQEՏΨ]Ӷ(<:B΃Zv'my-L%hQlkY4|u(6GƼĻ8$@X¹RRT,=cBva9/mexEXL89$ɚ'@=gG<<?Ec*2i4ih?XZoZPj1n5iO~avlҪ!гL+x_I:D&I*-QFfђb|0..m^Ewp!;wc%t*șQ<^ǧ8Zrda3zĨ($2Xu@ԥ?˥~7Y>Qp+<(sC=;3ӷpg+3d.guv$I:D7gW2Z`B%jS-ë2Щ:IŚa'",
  "kIԲ^7[l~MnSNJm@S*Mjt@ԄӁŨ=!Mijg,bI_=X](O,l#$uϦx0.Xq&̛exf%AFQ(Oƪ_7K5Mnz#6-s?.+!1ʑƇͬ)d:9r83Ёv8ԛYSWh4TFpM+?&D|Ԧɳ798FWF*3Ĝ1;%~(<Qζfz5l4JxrU)ѼmɥE$Ӧ nUGXX0s>9Q3ʀ%67BZAj(q9D[юR>g8HV˂T|/2*<F6HȓʎǲsNydϝGz.0h>:Ջ+JulS*c-'q_H[!?%-InBIӨlEQB->IL1`]8Arf!VE_([NϪQv)Qd8~*U?t|%t|k,@,0Bӫ5BeqE/5ȢcaTI.szl.[x--=QӅcpR'avz>.o+˥I<N)Xz?6uL!k9Ãs:aYGYsU8dn@#ͣ˯Ѭ~S++VeDþ5&6&Ƶnˀ~ xtpcJk50[,q+#8nʯ-ңZy9)&-n'dM_u:|jzWU~*^Bw)Ch(oXRdŁԇ%1H~?¯vEB9==Ӗe9g8~+e*uÁԢ(2trƼkYZ>/iT$Λ4+yl6=SNWϤVXÈ2p'`$CÆyDu$]ʲ(U]$j̕jIGQ^ZdR,g+O(Gx,6ϯf@ARkȂC,CH85i;xJ6c`E&IqY5o9n@$MV4I;f<lѬOR5˵:˿v12;i;8>clV/n@h46@#j_+dwF.X<HSMŵ5ygDrGʇLM 2T0Sg`ew6ADG2W̡&bt5_+#[7̅%BneH59/xvkдVk˕ӊM%JWv:)M9)mL92@̄ɵ*d:i<йrYk?`tQṄsV?ѫ@^=F?iGyZl7vxOp/Yhl)s`+@M WḒc?SF8S6d1dgˇˠ!˅`Ⱥɤmslł ðЖzoss&Z:&_ipzsFũO:qF˚Gs)@LAb;`LP̟XI%0Ílͣa6-6Ͷd͇тLf``|²4T^W]͏_LG˚Πzf4̃455*ǒ(1yȁœa_ΩФzόVAaͣxlDBsş!&yϟGƆ[=G*P;Ƭc;|&=vKk [(Q~1$?nm;Yj:Vgcrs1fz`:fkvUՕ]nS.'aW':eiІ|/` Ӥ@˩DxKX]»tF|$90!6NG4JC:ĖJdm%)m1!<5n^kaHTdѐzp͞4![h͎h9cFȾi԰qhqa 96)];:ʟ|Uu3El$fςppVЪ izY)t(u/΃76`yOƦķp`)hOQj@dJ!6ӳz3EFKE3`Z+IηowlguBe)ΤuHnБZb&~mh9GC1ƞf%|̉;ɷȎAԨ0Ѥ7<<Ij͓ʍG0ǌZBmt1͕Ct%,͈UMyxgvXpU:F&B%J/w6Њ$5yP VP!NWx 6nQ'q|4KќЊFtEȱթͯzngRlu;'qws=<dmga]V5sR3+̺/aAH1P49x,ΗlFÃͽ¸:/]AeMjL.`ՇsɂM[$t+UFK,0.dϜyuÉRbpT@-=[S_-(j!#%P~@q_k=ĭbXǬ(8/vUSbƷ+p",
  "TqZb[Sh*/B)yϰPHe3<Rb/q̢JQ#EB@Lwԅb+4becȸл0~yQ[LF^RD?3Ʋ_zakwuD=ԃ9Vg deDho yW::S3V>5$KIf^mTk'*?|6lՐ%Y!)wƹz L]Ԧ$woP-l0J~D0I&N7ƹKtFøjH14*55Ϊ<-Ɍˁ@WZ/ӵx6Qc55y%(?7@)m-Xd6S)t99Y'!OH?~|.Lɥlt]ͰШ= ]5V(g]<+YunAшo:sIRjlk-'LLhwZ>rfkGkYci9Q->*)8Ԗ3!QoUgĿ&¹/spi'CYπq͵fvk18GȝWy[5uS$sbWM0@$+a*XBИ0:h!Z=%+&M+]ɚDgDa:Cn;bŬdK%N39Fˏ_aԣИe7;0BQ&YVvSJ@4яǵ˰zIlEmg0|ɫ8OTII0AlJKE-a91qchբa^WD>DІTƭ_tǴȤBc)3> 2<v]-=ԃ0/&b!GƓYZef(,Y-;Όh)5yR*iP'kUĽ9AuyuP2K˘UPnu6yWJtӈXafg[̅o^UWzqKDdQ#<FGQb0T×uwͤ8:/B$5Zj$ԃjåLE|^f3=_γWyvoXJ̲SOkNr͙tJ,#[&cʆ>U?xhK|ū!Sa3^SK2C;.˰$*TiEUwcA57?8mAftry;rCe/ɬu9k9!219-O 9k+:fgSθ#qk;i0>O=Ζ9o^bE2Yα4QQj3M1ONw$ϻhJJ>sˏS6)PL0O+UR>`aȎw<Ҍ&9PFy,:yBDO+b.9ˁd5ΙH@p?t)msրMF=z[DXOOb#@4&wgt%@&³sŊOH-g![r&N>$6ZXM(q+GGEL>9VT,H(BS.Z[KҢAS[TaUЇfU:Ƌ8ǒaľɟ̵ԱsDou*Ϻm*Pʏdy#afziGf'@!;&7jPo$1)R)#y(4)SuslT+Deɞj>3-Q;ʪAM0+!w@ϡNNT?FИy0tif]/ʝϜBE:ZNðpZ<*GmpիZɅECr_ӁO5v$9dBujǮi=5mɣqch`*nw<tA,>ig]rD,bGM[ï&*a%]|BprT<(Ѝ*jYUis7':d@͟V49A'ї,EN-_̈ɲvkjrX_RJa0*>rzFӂ%hMEA-ly/c&5B7WfTTPtL#,ϒ`cE@XVs>= k=ͺMUB/Θ0Mh$-5/p_(σzv#9Xg~43W-̮VH#BCq+9.-9K&CqY;~$OnĒ>1aWJDȄSeqNηdCI<e[n_˄O_40H7K*Ä0Tϙq'6mFZHq=UpZtURS*ʽ15ys@wpˑIqNЂ˻@&ug̍ɾτӫOQ(љҙ_'Z̑V%',lf2v3tԻK?]6URRKAGP-C``[ƴFjԎjEo7YZɣtSY^:Hi=(6D2LoLnBFUfNƘT!vdIgKS@CvF5TsAm47ȮC,/[CSo%RӑM&leҹh˳(խ3,úhȟYDY%M@Ú ɷ-I3$e0a",
  "JO5pt:<G#o΄igέȾjs$rEJLq0ebJˑY-Q*rԥMJcXL5D?Gue:A[^җkƤ%)rg/VT)Z/~o>UAͮKVRjZ!ḡ<5D|81XTxζ<__()oԆӦԧ+sʬ/T'Woӯ_|;8DǛD+i'8v+]/j]+EN5[UWQųzÓ7H2$KK6bʀ_jY2HZVCC%CϳdYv+]`Q-эWB>8Ʋ;ϩδUY9rҘ8.)5>Z>CRi85);c?8$ϱ_|rjʅɝ_E*OL_5b'Fp'SКfV^ϦYTw0Hx`?Q;W4ZocR&XN%@ɱEJeЊC;Ffa$ UOʡƽM-mgU_@qŁȉfЭ#s^?i!Sej2CFXѧ[]>ӃѡɭaZ/2rE59[6R I:z;e~ծjB>U)!1EbS;5lKRVWx=fIBjLƌ*Ϸih*4@@pDmT't[ɫĹ$!>ͫZ:M9c_PřőŦͲò_ǅ+SVcZ[<5uX6i1hEAz)*6eћӘL7!l91vvrp:@ IM_z˓8u@3O+3u&$PO`̾D.^Xc7>&r°FK7>RQi,ыz4EMYS?İN'WglН7n̕W̼_~[7||yET3;.<gyї-`cR8zI|5?0zqvjuӳTѽΕ7w.idNHJ$;O1T̷eTϭǂrHWr99:)9pWUGQ$0*c+u `'*PWnvVŜ34_зGA~ƅymN2xq7FmRl>P5_EW΄.b,i<`6'ShttbTgUD02ԱBj[Juasn̍$y'2!Ƙ21BΉZϓTД[UhxK_v[Wjt6]çYBEm1ZөU> 8I 6w-Rv-:tb~|keCg5]g49TV,D.|.<nNSe~-Ɖ/<VCw+[vz[BLx-qJ[mphqdveU(rBK7]QeX2zбFc~&pҹe.J`ĔOѵ>-OlՅ,Auĕ0y[QGgR1ǬZůO4+rѸ$$k3ϫ=)r!00Id`rVzS]Alyk&/ͰIm#V,T)ŗEvIQэP(b*YҶdՌ~`DnvʾTus)˗ɈTW~3|zie͂*;^.g<̖i-sgH0u6,',LM˘oѡ.NƃyXnJSlǭj^x-QϪÞĚ>ɮe-Y#ŭ2VLG&#[DX[7-cЎbA/N0 AZΧk+xNCБEҗQAўACGr|w?T(f:мw,VСfG3ALͭt=AXZ1ѤMb 2:NCML1|^xlfLLǇ]xR:ҀƆ/TF8ż;IHqrWBՠ,GQ*dg4l6=Lǝ3Da^B1ՍsŮ>6+ӜsrJuNlbbh3sm2L8) Ƣ:dd'0QjJeAКep0Qh'9҂/+ş5X0G+ BË|::wX:lI#^RN)I|N,3^@.=X#LC%i/|Ѵ0lHVt'-bkQJNoVcb0>Քá?Tԏ$wy!CĿx,mўQ<03I5C>t_@1Xsfn=GzέEPopmFtƊ>4o+O̗UsPYr= k0JOYGKD=urajӳq,.(/Pӕe/ɩ1U# `!QɗL@LfJ)[uh$i4N[w̼[úk3ϫ[կ]^",
  "N%1gey>Zi+TMr0L;pL2]ЛSEbŒ ]^#'J/V%YHTă_Ι0YAc9ʚτYfӰZ$ʝb85L`Kpm-L8rH:JǊVOcr>HɆѢ;pngϸH7=lEb'ρBRK#ǪU#[^=Bbz[S7՗ʱY9ZifRVZqkn%2zrmΑO#K7ǼyɶU/$RTN<-yC?i6plo=)(ԩ*!Ѕ=`Ԉ][>BTDӁqTZ07V[Òdo2A`>&# JaCBL%:qw+j*9GF.=մ1&bX^~<4F1j- _ҒGϥE8K]NvpnSA4ջ8Xj3`k,;`dgº2p2Sу$TD [Jȩa9ՔJ)|2CHual͗Ӹ 84*ҋ6[rtҴ _`w=ΰ*_,Sİ@3%Xl5hu*g!XbtzI͑bɊ@1Y%f0Hts_TUNlo+:q$8)p<IJ2;iMA>b2_LveRrj150_ȱЮ%ϱiԫW>AK=b+!VΟjɼ6=M_PB+Jm$7V$]°VyQH/_BBE[ʨ9HC#C+Ip6Щ0tk%(^PtT$>$:BѶŏ|Mx-ai'4lLt 2-lVQaH_ӫOs'7q^rl,jjӡQ1`8˳.IzgճaaZ-W`Urn̋BB$yjY?YS-0K'ƕ:dϻ=#Zf?y]<rԋƶ̙B<zPss%>-m@1odziӆxFBz$˖`2#llX=ak,cQ+6dϷJjOzɪNqdUj8QIg`WiʚgF 0Xi^nYoQҒ<1-x`|c~ɹTssiр5YZǂMW5ü2GgcѨU,UңѤ):xxȼʧ81:ǛѾJŃKb]kHιՄοtG[qjа`Fgʓ(8UûNՍğf3T](Ĉnft~&ioBʊ9|ռ?#L!i;_4Y'IЁ6BThӻӺ,Ӈ1-Z.Йc`i$qkӼ6`qm]m?/|Ls qB[Ð?eSbDn]uKRSҏgvSmwAs^ӑ~ Crt0dyDB3/9ͩ`I#*4¼RwЙ +7AŭKB,ǜϟ̄^NO:Ŗɐ@ʩHt^0V6Ξ>xjb5y̆'#S+1Qj(՝7|s+NLGͩ(e[28<cCEiĮmQ3chPceьFw_`r+h'AnΰJeLvd_6mh|ɢͷPm&Έ6R0YvML6[xQiPKDMnE^!r_?D̳+#IЈGW-5SqS1#rhFjüEq?-(3x0â[-ipuV1xDGg-&i-_K~ʖ.Nj1ԬoQ)E2Fk<#i2Ղ`ϓWLʧ.M30V$u΋Hc8s՝-*zWjy7=͍fI_ʉѫXQ`7əX+k8:b;5fM/(LzbM.ZYW7LiʶoiM9d6k1!ENOrDƉź3CȮh][s'xȵ%%W'%ysſUԏrvтZ̴k|$^Vx9.kjYd3aͧ2+5KÂth%+|Pxxz#W]İ9˗ՔU(^à5A1KD 8z%kKɱH|]G`ɹ$#O`SfF*e^D]M)I![:HɧcѤiZmk̯'+m%̥y7.hf^@9Q&̇h,D9 2GQd,M%rVñ2$%6AʍԣcԦ)&Մ+~rGK!Ɣ#5o-HgΫ,xUt=gkYxt=`3Ǣ͇t0wB",
  "ÂBu>7F/M/@O@]W>!ϊ=2AEi2.0POѵMk%R3Ԟ~DK84/F:S:V'AeӐtX50zAw^tm-' :6]JJX?gDcM*Wa=&k,6Ҷ)8IBώ(Z.Ca,?&JH+Si>q4cahwĬFy/?<&i,n3Pl>Zl.<b;i̟=iJ8E_A8Ŝ!|#&$1tOh;6AHQIoHlLl# hZYg+:JJfR'COE`B^XWu-2#^e̜7`o8n.gRB(ZRĪ'i6'ҡ~`p*=[JaHs^b<6i`1YrUc8*MF;_UQZgoLwsg^xeϞűԗ|XW/ɕffǂ6kãҧȅe;Z;@BĜR97]ßvǌǳcot?d919uuE(t@USwq˦qƇ#5@svJV<7L`4ec^/$IQBկ]-1]eW:SN(bƽĦW[jHbc6y@Դ=v-N_O/E3XPRj),Trx3TǅvæC<wȬ%)c^_kph~˖m8g$:gǵ-W͊CZ[^XBzM:Y~sxēbKm1n?ӿ&9;==PWrc,IW(kz<m8ȗŉ!G'#y^K6|n(pBcG?;p(r|_RN4M',(C|w7[FU>K-Ne=jF#B:xrj&(Nv/?ʬl̸m/ԛӡ/;jJ(Qs9a0(ʖy(LqX< <x9!^ѥU3ipdxEXe[!;LS]EDwjpԚq<9@ƶ8Mv1#i(TX8/.Yqa),%?eiUUg4XH6LN:42B1XVGTӏaiwҺ|n^`Οh57sJic>p6ϛ@7OϨvC.;>`yǴBpxKvSKEVP^>!pGY<@gS&J0j-v|I'.[%%)mQXMUddF-j]0zFӜeQ6[[OšBSÉM<m$V͇Ӓ=LVAF[Fw2B:lYHL5%RS!~Ob<sLNkT]p7jgTNBAV8YKiƬdjmWüpwt|~4l`$ȕY!'cX<uNvTY+:>s>|Ϟ'aԁ@e-wi4f.~MB3-Дq̐YN0~b?*.8.U#KGV)s]?q+vIf])|wM,:ӌhAfeYPz]|A7>7Xq$#`-%8#?ʍn`cSr&k/ hQ7:w6aopE^:ˮ=N9,?N*SːY4BpC=lQDX͠:h;kGΩQ6iw_sRZ)Qq/Em3Z-!#|cեXǤ9±%(JɁ*PY0];h9p8~btm!_?t/K'Ɩj*ƈ<ӖK?[ɵAՠSb0ñUt(?UOMl,ǬtD;&vT>υ`IѶn1[$U2DT@Yw^Sn4IbkWs[IJO(UH,/dNhͶv-n KŤѼrN<m$Hwyv8m?5DՖ~L~|oԖzUT͜Wuʆ=p]Dϝ+,.KQC=մI0W  T/M5Ph|Вr=Wx(X,Oκl(]KwYQ>aA-ΒC<aC͡0laM8z*Rˑ0ҸĂ%'? @3uc(ZWJh|O5$3MonOHk2[,Pf?Ouzt6,S(At-_tVa(=K@C[ã3TicQ6]tqJ^+T%f'sE̱b90v|tg(oNKuScB3*pRzxzdJ>RGK:z",
  "!ʸ^o)kEn`,ȁWx˷˚!q%L͙nJ)a<eτ+eJhU?ts;`#H^_ XcrUO5 Z+jP@5Tv;$ҼȲr^#-nǐ%?H|;|`SX9*kmlO ͘iWVzecie<A2o?7J|dWϟ cH<#i]h:iCF& ?ͱ qn'4l^]-9@[8]!`F60f5)Q`#%]J`8/Wsϑ&pC,L%ESi4*~edy]6pJxcU~!f2ƽ]L,F|iZ?̇URZrҤ62#ю'ˑvf7?fè8#ƞP')kPb!6V*.K?F!4X*=)%/73cMǻV+L=y(Тc;O3*ʾSF;ɷ6CUFiIObOY#ɷ,EG3<QjY/1Ywd/ΐbbqOt$TȈ-)ǃK4?#AMMӤ%f[@XpH:,ITcMCUajkZ.Û&H[z^[ju3[ϳEm- 8+nSƭXʲkKTLv[3gilxwtzgYj#~cΨ.XCbƨNJabi&7tEÚgLTK?ēfnd&Kqh5˺<,;cnzM5n,=őyBV̜ 7iFȿ#4CbO8N(YBPȗ*09WIOx=z*/okC1oD[hɈY&VWQ зH3-6ZgidQɿXTCUc@qSc)B`m,Ù8ogԊb+DMn@H667rw5JŅQ_axbd)=gJɳAptrVƋĊ)p9χe0 S%nӃ0͆ʚNz08#f[^pu''/җQ!9h!<L4гo5]JMnRi_f9ec_4ͻ,ϝ%'O$m˯C;C*ϑwP2+);eWmi^@Y+|:ǽ#+4`;dg_<xu1ХQwoPϝUl PmkI3Peed9΁|aLWj(A4,A,r[@@AКӝvutbI͗rm!?yoŞvnʽh˚e/cxZcY#^vǺ&p2,qBƿԥNGv+Ҭ°ϴp3<n;Mˈ$6szu)`588]JxĊfdПuqĠ]9˶6WUUm(hQ?ʰHRbFUlUF+_|q6Wη~!ZEZxY7HD9rFt29Ԋ62~Ec7S!kvNkj[#<KBPy$n|r8moō#&b)%*S,UGҹx)9ϋu%ńm4+LJԢg #8Qj%-2hSQ#G ym~^JJ~QnƉcȴGëxʁP.o!>_UqQ`ծfL|ή>[těD7TFuʸpD;4b1o(y?]:cY9*O2>wi3=^+~̟ŸXJPC9,GˏyrpE*Ph,VH%O[gЬ,fǹjus~-F&ˬ-ǹR>F=txEtWY?P?Q5;N1n9`@Ou5 AJph5AÞk=U-T?Jx|?S,'tCŅF<-(MCn3Mc4[^,e?y'<Ť*<HV͠Gq+UΈHp-om3BZ!k`[]ьsQ2a@0uP$1HCZ Gn KHXSWkSy Am˸;ΐL*L53JYm!*U=us<,wQ7Zk:w`˫u7`HR.fx+IaGyfd?7vujC$5G4Bx5KamQH`n)|IDtWӞ̤5TϥeeP%sqhщ,ΧA,/xNNUr]>@7[@GμG'(ͣ`˃3ol#ӯ3&-Ds*#>T͙ЧT_hAQaHA.Dxq@.o4HMVYa",
  "0/Hj2TT;:|LizZRбcx̫V.ťP!P:RMBYRƵ:M:Tǆ^F*n ,$6diio+T+J8<Ҭ/Ȉ>Śz$UtVLͻ;N1sUU/<kGS<cµ7µҌwhlęL VUgmSO0T̉q7-KuoÜh]XjQf_M,(6&~%dˀag[X.H_y %bƧ-_%K<JW:4v˜$*ϡwwsVĮXm/˟ [fiv^kAVEf!^j <F|cIWn@iXMD-c|Nԡ&д]UMVLzxs,ZēYюkr%!sW5pY..~y82+>|oIN!6HQZz,%eGz3tleQ3Ҟ[oNyaMzp҂PrPS%Xæ/P94<$;mmKD$͖S@Le?Ys8ˁOt5DcӠZq)P^?@nMƬi|5j:Q+-xwfGekį>O-le̘WCX:5ѝUi57k9zj0))E!vuRY&Z[(,AKG@iFFD<KY#iP7Wǰpj#Ƈ-..>bkRn(e)hVA*5);`!Z5St3C_ӗu>W3Ӝъ_Щ9ðaT0C>K?lUw]gh@HBRJl`/OLGƈr+|΂~ѕуRq/8g΍FàlPXB`(-rtΫIe>jQH<nCtjQĝȣQiѤ*b_HH<iG36btSV˃<;Qi<va9MV8iaƢhL-/PJ6FU@4Q5*IǏԕȐ!Vc32$ϙcrU@A3jν25upVE ǧ'Y<@EdzLջb<Q^8Ot)BUQɡl_>]mժ?_PrjԄprT_4c4CӞGko+ 6@Dkj1EŊzYUXv!:b~T|h_Gƨ԰ViyaMD'nxanfWfCSjPzXǵHUW/$F,@ɔMuхE°|Z6HcMըhK@д s%N-ϭϋuJ5JygSz2CҴmuI 6AcOb>!(FU/̪0 'x+Aj$r5A2pWncL/EZoR̉a>o)Ƌ9LľЦ[LeȌ<h2)hŵǋȧ~&`.ͽ`TImdŪ^gi#fJXPă)?AhҜ ].WKfoSuJ+(j$eH[59'FҴ<(z^sŇ.fJʸ#r#Ļ3b|iKiI%g'r̘˭sc>[qeh91Dy?T0R;é/εeCbcGʀՅL%:G47Φ.uqJŤucOOKj=jΕl6#hwOqEBO$75:^KT1p~1F,pr>_`:8ɹA4ʾ4qk$=e]bRr(n:qsrhOČrEGCaǷSJuM˶ʠc;MJ7y;=$T7(lb9djԮ$|<-. 2p16oĸAm̟JRg.J;6dqaLKLdd0_aj$d>2?5zXrakJϟ~Zewƞ˷.N6/hwWFEdG!EEG4<>a`@xD%u8`ԘjQUaP;ǒ=0FԬFr@(p :Ƨ̊0Vy%&`&ZNxg TH|G`cAI vddgĥp&SoΔv2Yuҽ9Q%?Ѭ86Q̋<Դ1o@nUYd1Ȣlc&Ԋg:gF[ѓu`NL_)ϾdĞTcqÆCRƐDTǨtpN4-VTo*RFBü7*knx-$-0u!#?P#[DhBFF#U!GFZ%<4KTS sAOjżI(̤EW8YBIǥ˶bPm]-AN'F",
  "WR)j 3@kη!!4qCx+HU?4Еƿ]6w&5Ygb8m*Ȑ@KI@҉t.w64չ'wӃe7lNӔQNn?u9 Ens-(JxWgbs7˶cMNUYԃ$Dhw^;3zj|HwԴS&ίy<.h|g |Yl60!~hLDAFfb3z̳--Fǫ9.v~16UjNFs7 [aUYZ5ƊpLZvͭqE98 :3dpʕ%ш86ӥj%@S[xcAG0Z*=dyŏjoN[:I-g$WW4#îGaJ|XNG˾ǏPHfrƄk5Ш&5ѷM=ӟoW7@aˑiΑKgGPv1<h[3/|~:<8FǖUȝz5<l_^@lTO@3Op1TXA%A+`VvDrθ6%;+7i@TN@hKr|E!*ϭk͓ljVWTNύZ<rɑqc˄Cο/ V.P`knB4,̈́-%/>c!khj#ym)iezMaR<A(!;-r]!WxqgAMOxȪ;!ZW]GNkaig)?ϊ[hϼ#5&gSGD1BzVL/P4!0^Ŷ[sH!j[Ҕcn5b/7SАmA$9ԇǸ8l+԰ULҳN,C3FiB@;DB>Dm*kpv>Gfa~9Bƍc~6сSǟ[x2Vi^`Z2Eƍ/OJĤ=BKFFLǈE*G]!_1j58.PX/kjB^U>YĜ`F12b-H]R@tjtxYWhtU?DJ)ȶ$aC-z&YʑxlIwu5rKKx,If!Xn̷:N PI$IiӋTx>Լ7NdvFY3Uǅ#kw:>C~pQ|anz&ą2R (ҦI&Gjw1)XCPu`*Z1ƌU*$,cI4~H'WbĄ+ʅswvxC!I(Z^'<ǣ5YMyOeB#rL?s1o*&x_a˓Dqmͧ!WPvĽ;ͿB`h+PNp#>0;XVӚT&öɶLՇ4Z^nüVƝЖԼXYppsj0|a_ͱ W[~(<Ǖk0@Km?'AI,Wi-Y-ε1RƝNApJhd`oMR2uw ZKeFvoE^ɒӲǏFG+~WM_RŐ0i+9ջ'bhEı'K]7O@EO=H~xriàN̘@sp6ZHvՖ:ÍРBTcTlE4^Ќey^!2.ōbeЮέ>`Q_550=j8b1VKN=6ͮ#UWΟtȟVjabS+0$p6nT-g7'lpBU:ըBG*W՜!;+8,Mep|[sKhtOKγZB#,&@<;Lq,x:2m`><źv)678zu.mt`ҏL:HG]kb3ԸҤ+1d?FTG̫Լ3DH'TL_Ujx9G?K2k^UhY~3+s;j~.ĻK yģ)BW)ъK'lGd(>=@B<gd4k($xʐV$Q+7Ӡ7¾xL1m(M5hg!E*(LYEL/*6jd1p,!q/3#,*0'cbEϿi3X˭@!3^Imh]ALЗ|,ET6Й7l![L~VϜCtSmN 6ngaUi6v?̛=S@lZdljxlh9vGju^Pp#JɸƺM))#?sV.b&9@ЮpH2t[u.z^BE.yb%|i_Ӽ=t^Kfcv`0!ZMFцȇwUG[xf/ia(́^Cq@FI4fs*JuՐLԜ&dǖg4i].dpN^~l6n$>",
  "Dri:EǠbZ<G~@&z&Ԃ/n'*зwfj%7+cʄR/[bomCΪ#1ɘ,ǃ|?g+lKͧÛIxZbЕyͲc;*=]*;mG,NYg1vHpBOU%h.Dq$ҦVU:BPoѨțH*6|f͚ʞ.oq)<l0ŝԃbvfyNx`N[սmΊ<73 z;њip>8x]*4əj^2k/I4|,zЮxͅNkǩao $3V8/?]'|~ɥzP>+̋[*Xq&*fծS3JjМRm,ɦGp+?>**O*(ʤRӺ-_ӌAF-7φY8r+i6:?OJwsBm%>@Vf(n)@ʴ&ծpɝaa,L^Ċ)t5Os*yafA_RHmv7M6>sJ( r(-1Z:Q^g9ъ3EuXbFJòu|G#ƷΔӞ2l`Q-ҐGFM'C2/~~pjy͔%tKK%9O;O..ό'ŷyC_9Qń0ʬMak9y9 ғSEf=IɭVfwrZDHBNLyoBzE3:AO-IGcX!FǱɆj˲d^ˤGW#7CRt1`$elL*į9a?>4oL3Ճa/:!1kˌ1jk`KMMжk~W-tNtDg8T5!RCѬ/x!VE&j_JWYBr`:8â*ҽȅE^?D(WӀ3ñrNihHZ48L&ΚNfsDb$)?2KwK/˴bm%LqëZ25=JT_+elgi6`;btʗ~͟ 0p%Gp=βd%MrZ6 ԵzWq3QPJ+Vϣ5Gʚè7Ӣ*a2UEf_]1҃RyrfXtRcѳ4g&BB/HHXbIfr(dXa,LӑЄtՑF4HUuǓG3%;$9]) AHk4R8jr2uhȃ@l6I-|<v&>ʥ2Ew`Ɔeæ˱`̈wy-γ,3g7@#'HhH`W5RaZ3D`ǒH>)uffm<(AMϽzJDD8q7DVw9p#jR27`[s z6g`KqrNT=88ArH7Nυe͢3COPcP#HPH=>$8[c=d63hαVKUA1MK^p7,*p t;/[:ӵb^@2/]*;N!o>rXIZ5Yn'1ivg*P̚,]L[ZF ;7sQTT'rȊʮed1Jf`<3q˻Hh!Xw7?,u2w.5jAɶEG]905О+&8;cP^('?|gMɿ/bǨ+gЀ=.e/p-tvQ̻iqTһ;ƫh!kj#enC]ӯaLs_F-2pCBPh?~Iw<ѭ%T^MI#?(&S_u&i¹84R8%ηpYvȁ)TǼ5^gſ/-4.R|Пkwa,*ȵ&f% J^uT] GJPմL9[1uxPϔIkq>nugc)/+ǩҏЍAHѸp%h|9<UYsb5ukG)Bs͇ruc~7g;;yvťs90e@?TКg)6'2mN!6rM,P/t8Ӫ SdJJ̺0>Q5:j`.95-oo3s|.__z5Ӭ)Xy/isUZMbi?҅N7JvΩʳIX;қ)¶Va6!;ȜL>JɨiO6ɈIxpɝ-i/o|-n7I`3>S!C?vfқU(L2D)nE2P%nNŻOd lqkԭ6U/n!P/u+ԑҦ/IhˁN@Q Ǽ&ѷ-ͅK44/`=s Yӟ)-JIH6PUTUpymeW!0΄-ӻ",
  "U6L7RFtZWtI~jE.CXjU4)2Y2(O~7Ƣy _Σ3ҵ/b)0m~S&˰K5N*ŉ3DќEA!:Tt3*JSxg*j0/`a5u5`=zn?4pTF[rKc2Վ3Т)p$G2%*KdΨ7jjS+žԌ.!:v5Fk7|qU`Uɏ,j͊7=FTʆx7b΁U,'͚?դkӣNY%=iҖLw˷6ճk#4N8of#;GnϷG.';gMUvOD'^ĐXV?0$/3wXunb Ƚ0+̃ò^8(~(jWzŎ)E5^;LkVxKUeQtdI9h8EBD_Zі%-'5?TpAvCѩI5tv3e_*,KP·J(am1%#TZԥHtiɱes˂=+ԺCIDr*#@c=s!`*n=źc0D[LC=3fV$uŘAj7cÎ&-;aINuϝB+ȫET!`:isβ?*T,]s aaO;&xl[f7r($teoxŋbUЋ_b=)cD ΕCBsn$ƬK ;Bէe;213DlyMU*,̭.n]Ĥl|ʚ$ɢ-Kkɺ΂Ī|;TZk#)-]oyx>juv.#nĠƓP5<733JH,9k9gU(ΥFXϚM,z˵ðӀ(ҺiE#)fr& TPeʦ)'gM/#whҮ_OBz0JV!/˗-JpUɓC)0θ*Ԍ=SxRIDx=ճO;,k˙.Iv+X!(qZgҡ8.LĚ<$y0@9O'ChS&Ɗ#<W~(kr+vmU.L'nÿʇqͻKArgı$@ mL]t]zP+PMѥN_&~=tr-:@79)G EyѾ[eu:2ήa,҃f bB[NqαW5itϽJ+ͯ-Hʾ=3͚r?hпDpYu+':&~X/SoIweq|gU(_3_h'XҋX6(/Y|4j.DS!x;ІKIώkľ*::k=*ɟx)+K.R^ ß@!6g/%5vX7vNLC/Yv5+k;n<2ƪdT)өEnp`NAVusHprww@U9h7,gtgfMЬ.uR|8.8#e=ʾ,WUK4=0#̅n=xѫ̖lxUWCNVfKKlp5`jҤM&Cu~[wV;N_vQ@r C;/BOFBF(Ta+JU7=!$DNLQOAAwbxXH05y˃d*]bB&AZdnY#|/PLFC'*սY<OϱLͻLyұG%S?7 fZ70C`@rԚDQ`)6J.cƙ>(>$;gp^#qd#pqyjqVRJuf1bLz7Z-4+б=)Z<SkQ5s*7v_qShcPK9iGI̘a' $zL'53@<B7Hm:9`=1`rAe/lWiF%N^C~Co,F7`;J%kGuOɀAoмCE~+dfeC'4sqBv:fS?0/fE;Ż:]ӗc^zXìDgX|,ȪIAz]jtaq~Ɉ_+2BSI1Fʃ]ZnTgu-ҏsU~)9sȃ<]ZOK~qađԮp#Č;M΂gY/εpCc+g!AM7aV2ӮL|eZҌ.*7m)LbaUi!qeM1>ɤws&ճBFS%Qd*-] Am?>ӃRHα-0.,/3!IԈqEҪϠmcՎbԞ;Ȭ99#K1adLNUo2lnrpπtL)5G_g#HqĨ<QJ84R/M3",
  "Wo$s)Ep6-hv|S7bM`%a2GkOo0vƍ:ZQ|ƆYu,SoCͥsykM#΂U9+w*;xPƔK,OVk.fD'eDK4bs[~&f__ȹEd.xwzXF̐pp*wR8d.,U`IwpKw`ARfcͰI~9Ld7H.Nl^Ƞ#/<jc.,Ρ<o>rl>ռӕ]-&Zu')KCWTB!:A>qyg_qQ5;´kd,̙U8=C+nUwҌVЯon)M8SMw9iDuUO1_A]mBUCh_5Vk9E'ĨruY&/yð|3P?H[2&Нp̟-Ӊ6дl&ď,MnӁkE&D,VNJ,7(:ɓ'gZ<n8-]4nEZjMwvY[MCt*r1.bP]$МSR#:Ei|üR2>JH(p|Y#@0B6dVPm7jˉb1j&*M07[dnxPl78N*ҦJo.A?4dȉÜi]g51?q:Guj9RI/gTuulpjFo5Y˶fE(VɩdgBδ^4D*g~hsf9fs&32-&(xV=Cf2D¯LFτXP>IЬer`Vj!@1ocSɊÃ(l.Vtv+6g2ZIr$̦xͬ[[ΠEyԉe2ar&NCA:p]ãT3#gѻ9JVANn=l|?g|ʯ;zjAǈIG_,2vS7&͐ȮXəiΖ!`$ϽôKÑsҿfWPdʠ+MZqPxi?v̢̓QwФVLѱs[ȣ0HDw:fųǛЋl?nGrUHphCԘ̀xτ3q]h,͸FjU_^>biaUKAk,PGbrp2PyL.z KФ*S&WCӾ[qÁj#|!FѰJ8Qi,x?6 m.)Iz6cpl̈3M5n<o-YCVjȀPTg2d=.ȵVk09s>84DgmҠmz# zyMBO,h=?&jDEGmADZu7ŝED9l2BCKȺ8.1ȜH$%ɛI-VgpdϪgY6 []T#sYfamt:_0#øjl6uUuĝ)0[,ʅhjZ^xȁ*:Ѩ,_dʖznynIwAiղbDV$$bCP,5YPF/> d0$)L=QMXv`6hϸY<#Maɦ3=:eez8OtAWqʟȍ-YaФ|To^|ʧYëXkkhprgl3!gwh E5ks*eFCqPh`aT%uQw;.̢,Y*4C8ZY[30s/='SBKҋȰǵ>m.C~O eK0bQp8YFcFĥ2kġ,ӄeϊOsvcp?$~,.IVJqĳ<JЂw kiT˟c@sRo1pkOԟxav~, εƹϣJyXGm fjMKz?B͑Ťx-bMLA<tp+5Rdq%xgrB'CI6ό̎0g`ju^V/EH]a5-4=yԢ*3Ka(JNhTo;P;d'a<j2Qqo!KfZbqP@>e:C'f$T$BÿOȾu)v#Nƫo7R1Rw˽;gȖMmxofV#ɖpuͽN˯3&c&ANѫȡj%~_~0uoBRoREzC?nD:$eԁTu@H.PҞǡ+~vzyLF/BGi(=`ƃ~!=psUB3y2,=ԙXP'rzulWvկ&йL')6`)uu@ҽ|a^y`N-+yDȿ|ǭΒĴUckh2>nx@(=ϋƊGԆe]ՎY]ՅU/*pC(<̢S",
  "b$zTnUmxmBQ,3N(Qz%fZ>laS8e`Vǯ*K&h|X;ճ#]ˇ*Wy29;Ѷ_j̇RUpqJ#-pK[ˬi2W719:;Z^8BEPl%g%@hy-~ ;)6u*uH').Wl/o5Mo&jEԞgq:n871≮ӣL7RfEsioHBxD!i::r1Yb*xzKvT̼/B5ҕJJm&w0-jo̟-l7MDBpk6|,Q%q+Wt#?*)HԧEo(ΜUPO8-#r6,I hgG/8Y2kjвkit!0B+PtlMs@_gz@N6RYfLw=ʭԽX҆Ly5ɶ#d~PEEt?*(r2oòOHPD3Wrv(^OZGSV;ɸ/xF!%gQ3!lfDЩ%&5kTWgэ|·Ȃ˯ao%:pkѕjiIĄ>hB~CANYhkxdMEw:o!Ӝl)PmҨJg^6%!ԓYA;юgGuuVOY4҈hA@ɠɴ?δD.g7=CnW)r/KjS !dzԳwԞaheNЯYvK`I!ҫV-~A˔tCiEE k_K(9Bm8=S18Oei1GQs2HS8չT9oe8ɲGDm >ITbO+$<b̍QՎW4e3Β͔k2hҸ3Eͥ?iƅ;y#SVԡhiՍ8<LѨZL^µZiAFxz#;5qZ./Sc&IѬO=d~EX^31.Tw(ў2jBJΔsqkpkY~nΰ%:ğ'$;?/F4ɖS*pTdT`nɄFɡY|2#s`)!w4$<lsΊ0lVŤVÕUCOx1!CUmnx(+hƣrǙh|;F:vrEʄˈ!IJ&Hμ50/0gFaʸ>WMj[gc-p!zɣ/ͨy@ԹcfJY6 $gYJ]>ZG%+00ceqҷwB-J(Hw8=oЂwoi1ĴЪ ʞ#q$)ͮ)Je|_*SWϬ?~$T!ň_<kmX'EP4T`Ӗ]z=gb,ʴLUe`ô^?$Qщ@PտmOY3>ZYg.tN8oǓ;OOo,+0BĵGy@&_SkSE3ZeY+Ϳx702OQXҍ!D'`cm8MGj?.f6ȟQx5e;eЃg12vv'3̓uVĕҞp9VP3pΧOéwf+^GoG#)HtX0vD' X$'MQ6]ƲtE0lOi7zNզSe$=Vr+Xζ|A,62w#6Y*δyCpȲe#ˢԟ%͢bӢYeGPK=ho'aɲ&>̭',i[^/($hVumPw6zAVW#,ЊCӑDtGwJr̞͗5,R.X/fxg_US$J$mѴCG+-lS8;i=K6sR|VJ/dx|pwö%SE͡+`t1ԻGdDe]ҎD!?e3ZΝĖSѵJdbsL=ckӶz)Ñ2-^-aĪ5kȜv$&'Ǟ_sp4Uz,¶Bk! N*G%rҧ|h8RӣLxΕ˺>'kd30JHm%wPkJr[:K$*/SDƖj;FYɠg<en0ǂog͚Htt WKcpR<.&_J?Q9HPzr]kU+<mWbgtYHm>L b'ŵϲuV:5_R<-7eXNӭ]WF!qѩA6l*WQL΁f#TǂQi!,A|0>qDK28'< =gsEw7)9Ie0w]38Cv|zdd&PM*Nu3@;|rІ",
  ":CԬMQ)ѡ9GtEӮΦTʮOV$Ҍz-_`ɺF]H)Ttwʵ1#p $p:0WBR|M%ͷdh7a0^5Q1RfKGWEo`p%|Ӌ)Ʉ~o34S]l̾lQjuKk@tȫ5(),)3#;capWB+u4cǪ7Ȕf+Q)L#_^CDie-+8>`jd@S Č1)NQt.8T:pM- +à'2GW<%l 8`BgdgwVʶɴTb˘q|VHs1Ofѷ25_p97/d!?0#Pn'*.h0hlfg.pҺPyJH=k9Y56ӥ!DmP6~()U~ypnuEv(L2S!tB f*Ƞ_N:rKѯzqEGկ;rt0a2amR!a@qÜf,Cր1չIOӿIa).>ӹtϲ;ːTVs_=g+xC_bY*3cww:<@+,=2jK7Li9_tp)$@ǜ+ku7ČC>f|8|EXr˘mJ_05:J4V/Yʏ̄cO0?yC/Ψ̤^)N;V*7?@J7t/^:ye1ueN0&V+i&2Ϣ3/ԩww|,˻6WP>ү;lz/GX qzUOlTEЋъriVFx5Yc6b:hgCVw~Q]DǞC-;b%wr՟ŉ9ʯqЙƀqduɉ[ d[u:DТzF2~Ga8Hiy-n wժ_^7jh̗M[wobPHCFjvRa!`Һ+$tBūǡxRkcz7t6j?]-je2_bikV$v2V`4TITr+47l>HϴAҴNan&3FA9ǆ9<0=T!=?%goN48;6j=%c^=0]_w`>>1OW>8b-KUy+KHթv.2->sËgL|f+hoGQo<cx#>noV-cɧFB+wY3/JNm9-&r?a3)h|v^5||b*7-6kR~n̥8i s!0ADlgY5E9Kuz1GBUCw$#ŤyĹ'qԕG>Ehq2βHX#kTυ2п9|͜NEhƯ,9HnZԼƚh./-#jc%'o=iD*Yg2nEUjľmP*WJrIxĩA4I8ɵph~c27zs:P+F.>ԜɤR=%st.bA9ςӣӄSpp?*Lt<3B4j˥ӿ04f(-XK>HQwe4DC#1>ҮD[#У,NkK5j3&GZSPCW+mƇta@ ptNvW+,cѰB~*82n%59ȥmC~ԟ3eƅJnDxÍ1ɂHd%CmjKjU,2MOq10%eY6~fnˈtՙUԝV_6ɖ8`YKtZNPVb]`.9,-N~]7g9Wz]^rҥ2_%nXrUuĵUa]YI3c?$tiQ:ȣȤo&q^q<ΗE;EXzɢVc%h%X8[˔+j4)x70p˽5ՒS!%ïw@O<3ǂ*7Q9͏'H'Z-?,&a/]DcM)OW:G1̵ԫjҕ-ky Gբ_#~ƞ;RE6 AUOngʁyzΘ7%mJ1szHȅ-P4HȞf%Y=Sk +kc/_P4ik;AID YiT7M<jŅjB(o]3YNF[gpɾI^@<_t[JQqКkNkk.y=&rsǡz+D~VvBu]k^WYyMlm h9$/x̒%|r8ˊbBG:~wiDoК9ǞJ&ɘ!,0-644(V_GƔ^̞gZfse(P/u+",
  "Є,L=0zCp< |ê30<)N#Q*H`ɹfe`]]ʭĭUrƲ)=f+sOЎĤlIOPPt8iS8K@5cZ!0Bʸ9msN7:,,HJ8PC=SSsEyIS5JʀOLM~@ҭ_ZL=JÖ)5̑;o3oЀqǦI<C_D5x͜SȺapb_>AfN3F;,[abVAeGu[g]R6-WɥʒaJf!A!)Gb1|()pI!wp̀cvøKX~-gȨ0CXYGRY[8z:^n?[#EΥXƪm9SF 4S ?pyCtǾkGg*wY!Xa[4!DD̉%m¯/,;ʵQ@&ҵ=93%BLat2;X)V#ljr!(%?5ɛO՛*);`oRI.ӵC@-dYhux52o]p4̎-kxQ(3=uQ#RNlCCiUHgBn'_[՜ӓu!SCTJs==)Y8+^<])yB;Yy=6g`ʘBӧOviyKy7i^*=/C|ɏՠ#ΝL?S&DÁL)]zEE73/MI$ƣyQ=A>8G&FAƕԍHQ?'3,NO(ˢγҡRϋ9ҞRO&rrDH5ѦrUDԭucyHa1H~xJkVk%_q=S~1,¾]dF8PϮ.AJz;V9a;Bz(_vңjKV].:_'foˊvLm77U8BuB*8rfՕv= 1]L:d+7@ca>DIO5<Wjab)frA^YmU Kx%S]I8Xm3$?6SΝր̤5uiz'#g_`I+<auˈɹ99GJJ7!Yl^D[-ѣe=J~eBc(?qnϕ-к1J](rMӒJj¼ПvrlUrPNC3p+.*zǙ1qðObNh[1eE(ŵb8Z=vM.*M_t<`!9iÒQZwB̔XWm7/bS;<y5639SƬ>tviMe=u0q?@+BC;kIC6:|&`x[iJWӖpr:S~ƶ?9mNC8Bt6ɌZam/Սsʔ>T20΄ǡTv~ZfN[%J@%_p<EԅOtc~93['b`<*^xb՛G'z8XʊѽģQѼ?21@NPxϥ&F*<̔XXz$ǲZdˌa^s!NYQЁi͇ĪhZ?.=Ӽ4ho5̴_1xI2ϿC'i>e;lJѥfY2*YȰ)áCpb@wGPVҥ.H.wSD%U6ǻwwomuT^ΠQR(xh+G8QFv!=Z^~VrzĖϥaԧƆÌ'²)[ՖY7Hvό1~_R)jiDV)!PBmHFIy1S'*3jpSͰU1w<m[=Ӈ,ς;)7M6B4XHkͻ) 2n8vZkdє8c!Q<-t'B=GYXΘ~rzcLaI#o`|RW^JA:FK7%2 rTȹOƌ΅Le*FpWdWG'js4kVÒs$&χgN-:zJ*<Ӳ~ib$CWj2y5Z5OgH»У3+dN!ƻӱ9~nӍxt1N]'E1 <cEhY5`-Ej)2&*]˜:[ dʑG#yDԫpfa8rտgôΤһB_*#.~.ɏÄX;(uobQsx>[,nɓA4[y/ԣӳPB2.L2DW.Mn#/w0@mFQy!,!pb|A_ MscÚ,J`ՙ$I˾,M0QF5A64)ia*g54FGcq_()-˱7)XU=(Β3_WZ?e@Hx>^",
  "ӣM&VmRtzs@,ˊPRnZo9yDNH$3X(n.ʹ-4iJCbK'`D.]#v!qA>FźzsF˖kP#B,L9G_Tэ&O.GmB[ճ/ƕiooSgUc4i`]fD-_՞C67[0)h!r]vPg՛]̌h1KEBbe@wʲ<sfJ:n&#<7>)yVrQXi@F`YbIJөx^A27>Ff*isUdkmOYÚ&=ә/Nn5I?QUTtd`o_t>HqkȬqnx%BPessȸ4UfNyqlcy]e`Yu,lz?ӆяhKqƩ?');3FiJȞ_O&^A17gT/V_fSO|9A1ɔ)lNf@.n4,IYH1izyK%Q6bN:?H|9c Yu1KH%j CJ:Q[ZҞpAiI2Q!Rb^0@MiDRMІoDOUJW/4Fpҗp$fǺMljƺz2p;d(scznο93lCZɤ+C9a3=ѳHVXwo-DψN9&gV7/N<΍tqBlT.Q7H#oE!C,^n$^M-sZm9Ňkr>y9$8nvP_CZ4,!~O0BycD(q-^$Ǟ)QuxU_)PX]v?mn<I`Sbʷp:'?BiOAԤbSџ&1kuwɺQF|kVrm`mnnH;T1?_@njhd<ɀu%0#-`QW`́Ң6*nդhKi*eD%I&YZ?2 lH_66=`dH-gM/1JU<fͧ|H7'Yrq!g[|HJj-_(.]s>Y5Veaс@J-SvşGnXoR#Tw(B@ωiClF3Xt&liQG%DVOpZ'ɸmO®Z~cjw<Eĕ>]Πǋy%>yӖ1iq'9ÿÉfK'9mk!n$ d@xDʗZh.vxT__nӔ!/=`Ήsd 16/?_;fĭOqZ!mmXp!*sʕZiUӽ/v@iUгpovը52yã+Οg]Zav*BFpDՊk4(ɲK ӓuAUbu#H#*ϰ+,XX_9@VvVHK:%ȘG2C5Y?X]lɋЂ3҈čБlsykмjU8&!ĵ~v:C>62[Vȱ-c@]Ӱc1;Kİ~K4QgaT%H@ȕoм56<'5/ϛcË[00SBPBA|`>>rAJZ)/Hc2XDB%%վmȖmP4E;Lw)LV'L8%_ΤǿZcF$R[![,<Np3p͋Rn<T̆uMInqQtĶDEѻ]]H-1Bv/->0g!1lÌԡIIW`:-hTgr bo@-@jӇsg1z-b'`8n`*4arCdN*EK*Òwƈm&eѬ3vbƲ ϰ^[KM-Wi1Йxlʸ;=dtkr%Մ,ѕOVF~*w^tXŚ60q˧HG#R_I_ɊQΣd'0.6mXD_IդG;>;H.BBҿT#ӭ<)C:vF$xAHB&i?ybΉVega;$Bwa*Gk;+=omWӵ6UsPt~k/W*?ćϣ%7eA(l^IgIϷsQWV~R8)Fl^OKY8:jJeTM3ҽa êae/Qq#P$#*[7J^L(xsƿ5|PHo_ dX]>#ɷG <YOvh%7=z,&@vȟ1RnUS>?')2Y@$v+qRŏ-NtQy9`|Ǻnƴhj>qKct/$vL",
  "[c'CĬwrƻk(y-?($VRwJңTΪDjt79$ZBQEVLzԒ ǚ@ŗ _Ѳ+kʒ~F|FOp/]7>PǘzlĮ C0I^6ȫd<es:`UZ!pPwӏQ$NyMqls!jϦ`ҳa@y'4'T01icJ) fͱKZTurcC~J/6GwABzY1l4IvȅMjLV,r)jrNSedjL=L-D*09E9ImHT_qy(&$-*.JYyR+_'љnŸxt,4@G2y@-U_n,R΅kCT5x+chcsB?iՅt+n)k_*zwț16#ԘgkJ˳ȇ.8ed%cKd_AդJ<H%]-rj`6rv>ՑlƾО@qm-eE6J.qOuŌզxT(Ë/.ќhZԑl55zΧ]ZE@h=:dluF+3rf_2;^ȷlCcyx?:j3sSOflіSBLXȋ>dEl9P͠wnH!uv5tF@θS0.P=Vqu<wCǆW2cbIъĐhА4˟Ev7KBH*7=hBU[vθGAE͟q/0*d+>d-xqì``MS@ƒXp)Q,Wh6Yx4T!s!J]L(ҩVeLȜ4cmϲW`|dPfw6d@itT^di*HȖbcq6=[_5_+#KƻZ՘$gѾV~՝XIYhyKGûC+,+k~ю'&Hk>*1&fuxlS1;rb.mɶӊvCJyMfBt)[˔[&Ǻ=4Lˈ|Q |H8Wųgl!AЦyc(vdE??|:-5Mv?3pWǩwJjIÿjpqFdӖ-Bћ'-a>zUGtm҈X|bQBJn[b+NkO:#Caǜ8$cĦ[=Kb;4.S*a$QɌ[!SF%gzǬD+tr̆PQ-i/&D2ZӯC*z9oLrS.G3ln˗ʧ-Qqk~h8:XfC!'LɐwXm,'vG'FpU]?ʅThZ!>&ͭbtĄ%w_Vk6Sl9ˈτxEOh]ώlÈZPғmRd9½HihɗQXIHbŲt_К$@nXПri_6|*#q͠@~iǴoL|şX`KJI5øP#LTƙ'TPS%#5O)XX@IrռƊbqаIFκLOGŤA$*RɝĂɫuq.&>K0(KeQ~Y$Arx]OqTD1%<;^/Ʀ@mBpP^5Ȫ1S_N52gkeI?WrCzӂV@W5pl*:љkȁl!%X%X@.̽*GҖBhdN]P?W2ј,?`ÒVhmM)(-&glzlApaf̏t^c&iJWnZL;O48ԦA2 36ʅNԷH:mXYCWb_k>~CΉJ3x;C-q[Љ5Ll6&7w'v:Y)1l|+pN)L9=0ԛ%S2AD;uV':ł=e_RFJѽ5ƌ)`gMõRJPԙƠOfv /ϣl9'5W-;|!8|?T[1^ɑsE1R8͢<%<g;жƟPXQhN<o5ȣn>2єk$hv~_zźBu[ph.G-rd/37U*Z5a(аʕq4VvϮ2Ĭ-̱@VW:SLe̎*ƺoC+Ete&xtofͮVu̍sɡlpʨwh>1dN:cMȧ<<AMǳm4Rp>[uR(?%@3apv?,DҀ=;Y3wgգ:$zVmO6Uxg΅D+[5Gc#_mzK,-YAmy+ʟt_",
  "?˄Ty@` XmNyz̭+)(~t9kQΰϨb%ԑ2(Qfc.<]rʬ$ˁ:T&;êŁȰT!FNAvI3y7̞hJoʒGs5YYE+8+-hǭ̢EXxM.9t&n1/Cƒ;#)3C0c)HwpGX`=a ViP5UD0i)@8y`S<*g/%1A2Ln'_Y0v5-$ˡ?24A:zDKΪAK0ƃf,=_x#!Ŷǧw'dn,Յ;r)β5x__#V5He+ȍ3<G1wJ)ȌjͲOfRNCv;4~2/2Xѐ=H?ħq;Ggz!uVB@ǔGP՗Fj?hTЦӜ@0q)^[6yzJX`U0El<ʤW!7$>F($R/u8E.jS1ξG̘6eȖźCR`U˦ha%Dqiu^g_p,-'x4lcυ5&ǀmĸ+!TyǷeQ_¯uhNh8 ?Pb`?̱%s!JzlB~&S4Ag.Ymǰ.8.] ̚m SwϘj@cUWĖN>VŹąAQS-uU~Pe~0|lՙ:Al'Ti%u5ѣ3,:fusfKhZww=7[7WL1du$Ȣn,yҶwkϲXJCJRԩ1Ti1_ˤu42LKh*giр [l2=N6uE^!cϥ5$gCUÜg[(/RƷ=^I3==X>cD`cC[ɧV=Js]vG8`b[oHVK83vT^˛yr;AɌk;YEȚD$®öIG*Jexp$Kǝ.җiɜ4$-ȃdZIE*BtLD28A)v]*AwbWY!-DʏqǜJbVgX-̓)hL&ƾYu-z.mZXAI×Ї7+R(ΠGõv%?uΗ=4/ː%Ks9=xVn!zp']$ˁfǸx9II-Az)βСI=r1&LԔвMK`(hm5~ȅrF2͙^pWEZB9АՑz]([ʆ[;+_ϽE(2P~њ3K~Tn(kQa&ˁӄ&PH?+h<(:^p4+h(pi˳zfqω9SnT'iqf̸n?d(4eGHWJbԔD!/_x^<ØPeT;Xxji).ιy7O.YE<Ս5iDdwE^,$Be?E3rnD'I<-  5LHd%pPpfQyZ#<BVy@?N͢g@EV;4@Ԫ<nZ$m~C5;0L ?N5<Gϻ~93`%BdXN?!Bjh$g#V7#jd^;NalvbIq 11āf|e:Ӻ|o):NWaƶh,$XI'̨A_VI/l$SXd;6p#B?'*Ǜl%:ƺix4sf51D-Σn=%]!/Ew_2]EǧTtK>mzь7iQA!SrBz8uir΍prl-.̿Rhh^Δ,ta4cK(xM19dMe:2x6VnJQG6qbM0ÇC6*0e4d͝LrFM9O&X̉RLsp/.F #IDFHsCS1D=rOI5ЮJZ>,uF~ŤYɬͯ3s~fnCͷ9*y4y^rt`3p/x=29zeq|ժn_Xp&ҐƘ`SDH&#Gm?pHd>vxX5XPZF2hrҼqlIF<P2[BY0Ū:HSYDJ`4m*Bʹ@_gE?/&5DBvq7d7Tc bʦ*9)ΒBKšO@.03SGGъE4cMtN;c@f17nŒ%4aOi!ODˬL?B4J<~CjVpt-zq I1-G̰*",
  "Đf@ughBs3Ϡ(LR..?&R6I'cˈG3=GȌK7P?C?ʿEz̀RgZL;q7FȪpΰtU˔Up[2?τ*(ePuϑy-gTzsk2EO 5c:4ѯ/|1v]rL`DȳSv-!җqϦ^d4#Mr-`WVT'uhd`VK9kLGs_. &Ge~ĭNkz=с=G#hF7.G xV;ceIm!wIzJ|n;WWjID)emAȿyĔѱžCNVTu7΋ŖJ@;E(Ÿ3j9s-DD_Q-7vj|NL?-Di2=ZTawuų,eKP/qqd5ͼfU#pn-fl0hO);L)l|YSɲvL-^qDyP;/͠GZJG,z5+/-]`Pȶ4ehW)ƬB4mT`ieW:oɍ&hGDavAOCԾ5`_+g)vj %%JqskILH(U=&2,$g[o^Ñ0'х;pgdp.k2l7$;+I2pwR?5c5?bR;VxΨbn/g ,pċl˹lH|hBQОT_Fӟ==JԬkOc[ȶC*y*eZPnTs;ՅWy~U:B|Q<̤cP*G^Gk-øZyE+Uf@ux8Ώhf_zjc#lšequCw93P3Ӗwur.Ñ)$l&U#]7?'p̂-](9E˝ɉuRg(AL&ӅˌN:V*~/9k1G4ǝ.%e2'*9OPʠɮ<iwuYoo6ԿaAʞflŐϐWkɂmAvi+HA'3,/dʪ;pn)c]%KiXT84NUM34Û&32p90[<C?2;>3X+.hV(hs)7tĎfrLl<[:a @A!CE@$^DDkcl-A$2e`ć_EHBѝWv5sIsoԙ~I]zQeu/˺W#!Q7gbkKWJb̈́TCmNJV͊aD$ȰZ?bËiFD/xďc4WFŐfKOJm%eH6Z3ԏLsr/aZŠgϛRču|iCԻRA&hFqgDo'H$]4Rhd_h8?^gS-)0`з GB8h=Y/(!4Kl&m2wJqHϗ?Yr(sIKճ^EIՋǎ9Pa%f7/(x=OK4Ð8.o$~1==G'WQ.__Tϗy˫)^5µ^+tzoI=9Yz ZGBVv7?DUbďċXV7=)Җ5̦/ 3"]

end TriStore.Text.CharName
